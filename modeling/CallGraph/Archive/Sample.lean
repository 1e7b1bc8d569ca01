import CallGraph.Archive.Directory
import CallGraph.Assembler

/-!
# Sample archives

An archive of one class, with an encrypted member that is no class in front of it, and the file of
an archive with one member.
-/

namespace CallGraph

namespace Archive

/-- A member that takes a password to read. -/
def Member.encrypted (name : String) (contents : Bytes) : Member :=
  { Member.stored name contents with isEncrypted := true }

/-- An archive with an encrypted text and the class `pkg/A`. -/
def withEncryptedResource : Archive :=
  ⟨[.encrypted "META-INF/secret.txt" (Bytes.ofString "hidden"),
    .stored "pkg/A.class" Assembler.singleStaticCall]⟩

/-- The file of an archive with one member, which is not compressed. -/
def storedFile (name : String) (contents : Bytes) : Bytes :=
  let label := Bytes.ofString name
  let fields := Bytes.ofNatLE 2 20 ++ List.replicate 6 0 ++ Bytes.ofNatLE 2 0x21 ++
    Bytes.ofNatLE 4 (Checksum.ofBytes contents).toNat ++ Bytes.ofNatLE 4 contents.length ++
    Bytes.ofNatLE 4 contents.length ++ Bytes.ofNatLE 2 label.length ++ Bytes.ofNatLE 2 0
  let member := localSignature ++ fields ++ label ++ contents
  let header := directorySignature ++ Bytes.ofNatLE 2 20 ++ fields ++ List.replicate 14 0 ++ label
  member ++ header ++ endSignature ++ List.replicate 4 0 ++ Bytes.ofNatLE 2 1 ++
    Bytes.ofNatLE 2 1 ++ Bytes.ofNatLE 4 header.length ++ Bytes.ofNatLE 4 member.length ++
    Bytes.ofNatLE 2 0

end Archive

end CallGraph
