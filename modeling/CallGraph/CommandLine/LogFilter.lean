import CallGraph.Event
import CallGraph.Text.Split
import CallGraph.Unicode.Property

/-!
# Filters of log records

A filter is a list of directives.  A directive sets how much is logged, for everything or for the
targets that start in a given way; the one that says most about a target decides.
-/

namespace CallGraph

/-- How much detail a level adds; the least number matters most. -/
def Level.rank : Level → Nat
  | error => 1
  | warn => 2
  | info => 3
  | debug => 4
  | trace => 5

/-- Sets how much is logged. -/
structure LogDirective where
  /-- How the targets start that are concerned, or nothing for all. -/
  target : Option String
  /-- The greatest rank that is logged; 0 for none. -/
  limit : Nat
  deriving DecidableEq, Repr

/-- A filter of log records. -/
structure LogFilter where
  directives : List LogDirective
  deriving DecidableEq, Repr

namespace LogDirective

/-- The names of the limits, by rank. -/
def limitNames : List String :=
  ["off", "error", "warn", "info", "debug", "trace"]

/-- The limit of a text: a name in either case, or a number. -/
def limitOf? (text : String) : Option Nat :=
  let digits := match text.toList with
    | '+' :: digits => digits
    | digits => digits
  let value := digits.foldl (fun value digit => 10 * value + (digit.toNat - '0'.toNat)) 0
  if !digits.isEmpty && digits.all Char.isDigit && value ≤ Level.trace.rank then some value
  else limitNames.idxOf? (String.ofList (text.toList.map Char.toLower))

/-- Whether a directive may start with a character. -/
def startsWith (char : Char) : Bool :=
  ['-', ':', '_', '['].contains char || Unicode.isAlphanumeric char

/-- The directive of a text, if it is well-formed.  Directives about spans concern no record,
because records stand in no span. -/
def ofText? (text : String) : Option (Option LogDirective) :=
  match text.toList.dropWhile Unicode.isBlank with
  | [] => none
  | first :: rest =>
    if !startsWith first then none
    else if (first :: rest).contains '[' then
      if rest.contains ']' then some none else none
    else
      let target := String.ofList (text.toList.takeWhile (· != '='))
      match text.toList.dropWhile (· != '=') with
      | [] =>
        match limitOf? text with
        | some limit => some (some ⟨none, limit⟩)
        | none => some (some ⟨some text, Level.trace.rank⟩)
      | [_] => some (some ⟨some target, Level.trace.rank⟩)
      | _ :: limit => (limitOf? (String.ofList limit)).map fun limit => some ⟨some target, limit⟩

/-- How much a directive says about a target, if it concerns it at all. -/
def weight? (directive : LogDirective) (target : String) : Option Nat :=
  match directive.target with
  | none => some 0
  | some start =>
    if start.toList.isPrefixOf target.toList then some (start.utf8ByteSize + 1) else none

end LogDirective

namespace LogFilter

/-- The filter that logs everything up to a level. -/
def upTo (level : Level) : LogFilter :=
  ⟨[⟨none, level.rank⟩]⟩

/-- The filter of a text with directives between commas.  Without any directive errors are
logged. -/
def ofText? (text : String) : Option LogFilter := do
  let directives ← (Split.fragments ',' text).mapM LogDirective.ofText?
  if directives.isEmpty then return upTo .error
  else return ⟨directives.filterMap id⟩

/-- The directive that decides about a target: of those that say most about it, the last one. -/
def deciding? (filter : LogFilter) (target : String) : Option LogDirective :=
  (filter.directives.foldl (fun best directive =>
    match directive.weight? target, best with
    | none, _ => best
    | some weight, none => some (weight, directive)
    | some weight, some (other, _) => if other ≤ weight then some (weight, directive) else best)
    none).map (·.2)

/-- Whether a record is logged. -/
def logs (filter : LogFilter) (target : String) (level : Level) : Bool :=
  (filter.deciding? target).any (level.rank ≤ ·.limit)

end LogFilter

end CallGraph
