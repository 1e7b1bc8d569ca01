/-!
# Arguments of the command

Arguments are options, each at most once, and the paths of archives, of which there is at least
one.  The value of an option follows it as the next argument or behind an equals sign.  Two
hyphens end the options.
-/

namespace CallGraph

namespace CommandLine

/-- What the command is told to do. -/
structure Options where
  archives : List String
  patterns : Option String
  output : Option String
  /-- The number of workers.  They may be too many to be had. -/
  jobs : Option Nat
  quiet : Bool
  /-- Whether the counts are logged. -/
  timing : Bool
  deriving DecidableEq, Repr

namespace Options

/-- No options and no archives. -/
def none : Options :=
  ⟨[], .none, .none, .none, false, false⟩

end Options

/-- What arguments ask for. -/
inductive Invocation where
  | run (options : Options)
  | version
  | help
  /-- The arguments make no sense. -/
  | misuse
  deriving DecidableEq, Repr

/-- An option that takes a value. -/
inductive ValueOption where
  | patterns
  | output
  | jobs
  deriving DecidableEq, Repr

/-- An option without a value. -/
inductive Switch where
  | quiet
  | timing
  | version
  | help
  deriving DecidableEq, Repr

/-- The option of a name that takes a value. -/
def ValueOption.ofName? : String → Option ValueOption
  | "include" => some patterns
  | "output" => some output
  | "jobs" => some jobs
  | _ => none

/-- The option of a name without a value. -/
def Switch.ofName? : String → Option Switch
  | "quiet" => some quiet
  | "timing" => some timing
  | "version" => some version
  | "help" => some help
  | _ => none

/-- The option of a letter. -/
def Switch.ofLetter? : Char → Option Switch
  | 'V' => some version
  | 'h' => some help
  | _ => none

/-- The number that decimal digits denote, which may follow a plus sign, if it has 64 bits. -/
def number? (text : String) : Option Nat :=
  let digits := match text.toList with
    | '+' :: digits => digits
    | digits => digits
  let value := digits.foldl (fun value digit => 10 * value + (digit.toNat - '0'.toNat)) 0
  let fits := !digits.isEmpty && digits.all Char.isDigit && value < 0x10000000000000000
  if fits then some value else none

namespace Options

/-- Adds the path of an archive, which must not be empty. -/
def addArchive (options : Options) (path : String) : Option Options :=
  if path.isEmpty then .none else some { options with archives := options.archives ++ [path] }

/-- Sets an option, unless it is set already or the value does not do. -/
def setValue (options : Options) (value : String) : ValueOption → Option Options
  | .patterns =>
      if options.patterns.isSome then .none else some { options with patterns := some value }
  | .output =>
      if options.output.isSome || value.isEmpty then .none
      else some { options with output := some value }
  | .jobs =>
      if options.jobs.isSome then .none
      else (number? value).map fun number => { options with jobs := some number }

/-- What the options ask for when there are no more arguments. -/
def finish (options : Options) : Invocation :=
  if options.archives.isEmpty then .misuse else .run options

end Options

/-- What an argument is by its form. -/
inductive Form where
  /-- Ends the options. -/
  | separator
  /-- A name after two hyphens, and what follows an equals sign behind it. -/
  | long (name : String) (value : Option String)
  /-- Letters after one hyphen. -/
  | short (letters : List Char)
  /-- Anything else, a single hyphen included. -/
  | operand
  deriving DecidableEq, Repr

/-- The form of an argument. -/
def Form.of (argument : String) : Form :=
  match argument.toList with
  | ['-', '-'] => separator
  | '-' :: '-' :: rest =>
    let name := String.ofList (rest.takeWhile (· != '='))
    match rest.dropWhile (· != '=') with
    | [] => long name none
    | _ :: value => long name (some (String.ofList value))
  | '-' :: letter :: letters => short (letter :: letters)
  | _ => operand

/-- Takes all that is left as paths. -/
def readArchives (options : Options) : List String → Invocation
  | [] => options.finish
  | path :: paths =>
    match options.addArchive path with
    | none => .misuse
    | some options => readArchives options paths

/-- Reads arguments after those that gave the options so far. -/
def readArguments (options : Options) : List String → Invocation
  | [] => options.finish
  | argument :: rest =>
    match Form.of argument with
    | .separator => readArchives options rest
    | .operand =>
      match options.addArchive argument with
      | none => .misuse
      | some options => readArguments options rest
    | .short [] => .misuse
    | .short (letter :: _) =>
      match Switch.ofLetter? letter with
      | some .version => .version
      | some .help => .help
      | _ => .misuse
    | .long name (some value) =>
      match (ValueOption.ofName? name).bind (options.setValue value) with
      | none => .misuse
      | some options => readArguments options rest
    | .long name none =>
      match Switch.ofName? name, rest with
      | some .version, _ => .version
      | some .help, _ => .help
      | some .quiet, rest =>
        if options.quiet then .misuse else readArguments { options with quiet := true } rest
      | some .timing, rest =>
        if options.timing then .misuse else readArguments { options with timing := true } rest
      | none, [] => .misuse
      | none, value :: rest =>
        match (ValueOption.ofName? name), Form.of value with
        | some option, .operand =>
          match options.setValue value option with
          | none => .misuse
          | some options => readArguments options rest
        | _, _ => .misuse

/-- What arguments ask for. -/
def Invocation.ofArguments (arguments : List String) : Invocation :=
  readArguments .none arguments

end CommandLine

end CallGraph
