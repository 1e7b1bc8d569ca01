import CallGraph.Build
import CallGraph.CommandLine.LogFilter
import CallGraph.CommandLine.Options
import CallGraph.FileTree

/-!
# The command

The command reads archives from a tree of files and writes their graph to a file or to standard
output.  It is a function: given arguments, environment and files, and what the system makes of
workers, it says what is printed, what is logged and what the files are afterwards.
-/

namespace CallGraph

namespace CommandLine

/-- What is logged. -/
inductive LogRecord where
  | event (reported : Event)
  | filterReady (patterns : Nat)
  /-- The run is over.  The time it took is measured and logged as well; it is left out here. -/
  | timing (tally : Tally)
  deriving DecidableEq, Repr

namespace LogRecord

/-- The level of a record. -/
def level : LogRecord → Level
  | event reported => reported.level
  | filterReady _ => .debug
  | timing _ => .info

/-- The part of the program that a record comes from. -/
def target : LogRecord → String
  | event (.patternIgnored _) => "jcallgraph::filter"
  | event (.archiveMissing _) => "jcallgraph::graph"
  | event (.archiveUnreadable _) => "jcallgraph::graph"
  | event (.archiveVisited _ _) => "jcallgraph::graph"
  | event (.bootstrapMissing _ _ _ _) => "jcallgraph::dynamic"
  | filterReady _ => "jcallgraph"
  | timing _ => "jcallgraph"

end LogRecord

/-- The counts as they are logged. -/
def tallyText (tally : Tally) : String :=
  String.intercalate " "
    ["archives=" ++ toString tally.archives,
     "skipped_archives=" ++ toString tally.skipped,
     "classes=" ++ toString tally.classes,
     "class_references=" ++ toString tally.references,
     "method_calls=" ++ toString tally.calls]

/-- The name of a level. -/
def levelName : Level → String
  | .error => "ERROR"
  | .warn => "WARN"
  | .info => "INFO"
  | .debug => "DEBUG"
  | .trace => "TRACE"

/-- What a record says besides its level. -/
def LogRecord.message : LogRecord → String
  | event reported => reported.message ++ " " ++ reported.subject
  | filterReady patterns => "identifier filter ready patterns=" ++ toString patterns
  | timing tally => "timing " ++ tallyText tally

/-- A record as a line. -/
def LogRecord.line (record : LogRecord) : String :=
  levelName record.level ++ " " ++ record.message

/-- Why a run fails. -/
inductive Failure where
  | workers (causes : List String)
  | output (path : String) (fault : FileTree.CreateFault)
  | build (fault : BuildFault)
  deriving DecidableEq, Repr

/-- The wording of a failure, from the outermost context to the cause. -/
def Failure.chain : Failure → List String
  | workers causes => "failed to configure worker threads" :: causes
  | output path fault => ["failed to open " ++ path, fault.message]
  | build fault => fault.chain

/-- A cause, with a margin in front of all lines but the first. -/
def indented (first margin cause : String) : String :=
  first ++ String.ofList (cause.toList.flatMap fun char =>
    if char = '\n' then '\n' :: margin.toList else [char])

/-- A number with blanks in front, five characters wide. -/
def numberColumn (number : Nat) : String :=
  String.ofList (List.replicate (5 - (toString number).length) ' ') ++ toString number

/-- The causes of a failure, numbered if there are several of them. -/
def causeLines : List String → List String
  | [] => []
  | [cause] => [indented "    " "    " cause]
  | causes => causes.zipIdx.map fun (cause, number) =>
      indented (numberColumn number ++ ": ") "       " cause

/-- A text without white space at its end. -/
def trimEnd (text : String) : String :=
  String.ofList (text.toList.reverse.dropWhile Unicode.isBlank).reverse

/-- A failure as it is printed. -/
def Failure.text (failure : Failure) : String :=
  match failure.chain with
  | [] => "Error:"
  | outermost :: causes =>
    let context := "Error: " ++ outermost
    if causes.isEmpty then trimEnd context
    else trimEnd (String.intercalate "\n" ((context ++ "\n\nCaused by:") :: causeLines causes))

/-! ## Running -/

/-- What a run changes. -/
structure Desk where
  tree : FileTree
  /-- The place of the output; standard output if there is none. -/
  destination : Option Place
  printed : Bytes
  deriving DecidableEq, Repr

/-- The outlet of a run. -/
def Desk.outlet : Outlet Desk where
  find desk path := desk.tree.lookup path
  write desk bytes :=
    match desk.destination with
    | none => ({ desk with printed := desk.printed ++ bytes }, none)
    | some place => ({ desk with tree := desk.tree.append place bytes }, none)
  flush _ := none

/-- Whether a path stands for standard output. -/
def isStandardOutput (path : String) : Bool :=
  !FileTree.isAbsolute path &&
    match FileTree.steps path with
    | "-" :: rest => rest.all (· == ".")
    | _ => false

/-- Where a run with the given output starts. -/
def openOutput (tree : FileTree) : Option String → Except Failure Desk
  | none => .ok ⟨tree, none, []⟩
  | some path =>
    if isStandardOutput path then .ok ⟨tree, none, []⟩
    else
      match tree.create path with
      | .ok (tree, place) => .ok ⟨tree, some place, []⟩
      | .error fault => .error (.output path fault)

/-- The variables of the environment that matter. -/
structure Environment where
  /-- The list of patterns, unless it is given as an option. -/
  patterns : Option String
  /-- The directives about what is logged. -/
  log : Option String
  deriving DecidableEq, Repr

/-- What is logged by default. -/
def defaultLog (options : Options) : LogFilter :=
  if options.quiet then .upTo .error
  else if options.timing then .upTo .info
  else .upTo .warn

/-- What is logged. -/
def logFilter (options : Options) (environment : Environment) : LogFilter :=
  (environment.log.bind LogFilter.ofText?).getD (defaultLog options)

/-- What a command leaves behind. -/
structure Outcome where
  code : UInt32
  tree : FileTree
  printed : Bytes
  log : List LogRecord
  failure : Option Failure
  deriving DecidableEq, Repr

/-- What the system makes of workers. -/
structure Workers where
  /-- Why so many workers cannot be had, from the outermost context to the cause. -/
  refusal? : Nat → Option (List String)
  /-- The turns that they take. -/
  schedule : Schedule

/-- As many workers as are asked for, which take the class files in order. -/
def Workers.ready : Workers :=
  ⟨fun _ => none, []⟩

/-- Runs the command with options.  Workers are looked for before anything else is done, but only if
their number is given. -/
def runOptions (options : Options) (environment : Environment) (tree : FileTree)
    (workers : Workers := .ready) : Outcome :=
  match options.jobs.bind workers.refusal? with
  | some causes => ⟨1, tree, [], [], some (.workers causes)⟩
  | none =>
    let list := options.patterns.or environment.patterns
    let filter := IdentifierFilter.ofOption list
    let start := (IdentifierFilter.eventsOfOption list).map LogRecord.event ++
      [.filterReady filter.patterns.length]
    let logged := List.filter fun record : LogRecord =>
      (logFilter options environment).logs record.target record.level
    match openOutput tree options.output with
    | .error failure => ⟨1, tree, [], logged start, some failure⟩
    | .ok desk =>
      let report := build Desk.outlet filter options.archives desk workers.schedule
      let records := start ++ report.events.map LogRecord.event
      match report.result with
      | .error fault =>
        ⟨1, report.state.tree, report.state.printed, logged records, some (.build fault)⟩
      | .ok tally =>
        let last := if options.timing then [.timing tally] else []
        ⟨0, report.state.tree, report.state.printed, logged (records ++ last), none⟩

/-- How the command is used. -/
def usageText : String :=
  "Usage: jcallgraph [OPTIONS] <ARCHIVE>...\n"

/-- The name and the version of the command, as printed. -/
def versionText : String :=
  "jcallgraph 0.1.0\n"

/-- Runs the command. -/
def run (arguments : List String) (environment : Environment) (tree : FileTree)
    (workers : Workers := .ready) : Outcome :=
  match Invocation.ofArguments arguments with
  | .run options => runOptions options environment tree workers
  | .version => ⟨0, tree, Bytes.ofString versionText, [], none⟩
  | .help => ⟨0, tree, Bytes.ofString usageText, [], none⟩
  | .misuse => ⟨2, tree, [], [], none⟩

end CommandLine

end CallGraph
