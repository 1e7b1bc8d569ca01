import CallGraph.Archive.Sample
import CallGraph.Main
import CallGraph.Proofs.Archive.Selection
import CallGraph.Proofs.Assembler.Indices
import CallGraph.Proofs.Build.Accounts
import CallGraph.Proofs.Build.Selection
import CallGraph.Proofs.Bytecode.Joining
import CallGraph.Proofs.Bytecode.Switch
import CallGraph.Proofs.CommandLine.Redirection
import CallGraph.Proofs.Edge.Reading
import CallGraph.Proofs.IdentifierFilter.Unions
import CallGraph.Proofs.JavaClass.References
import CallGraph.Proofs.JavaClass.Slots
import CallGraph.Proofs.JavaClass.WellFormed
