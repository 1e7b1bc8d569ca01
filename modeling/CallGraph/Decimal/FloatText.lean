import CallGraph.Decimal.Shortest

/-!
# The text of a floating-point word

A word of a binary floating-point format denotes a number, an infinity or no number.  A number is
written with the fewest digits that read back as the same word: with a point and at least one
digit on either side of it from 0.0001 up to below 10^16, with an exponent otherwise.
-/

namespace CallGraph

namespace Decimal

/-- A binary floating-point format. -/
structure FloatFormat where
  /-- The bits of the fraction. -/
  fractionBits : Nat
  /-- The bits of the exponent. -/
  exponentBits : Nat

namespace FloatFormat

/-- The format of 32 bits. -/
def single : FloatFormat := ⟨23, 8⟩

/-- The format of 64 bits. -/
def double : FloatFormat := ⟨52, 11⟩

/-- The fraction field of a word. -/
def fraction (format : FloatFormat) (word : Nat) : Nat :=
  word % (1 <<< format.fractionBits)

/-- The exponent field of a word. -/
def exponentField (format : FloatFormat) (word : Nat) : Nat :=
  word >>> format.fractionBits % (1 <<< format.exponentBits)

/-- Whether the sign of a word is negative. -/
def isNegative (format : FloatFormat) (word : Nat) : Bool :=
  word >>> (format.fractionBits + format.exponentBits) % 2 == 1

/-- The exponent field of infinities and of what is no number. -/
def specialField (format : FloatFormat) : Nat :=
  (1 <<< format.exponentBits) - 1

/-- The exponent of two that belongs to a unit in the last place of the fraction, for the
exponent field of a number. -/
def unitExponent (format : FloatFormat) (field : Nat) : Int :=
  let bias : Nat := (1 <<< (format.exponentBits - 1)) - 1
  max field 1 - bias - format.fractionBits

/-- The magnitude of a word in units of the last place. -/
def significand (format : FloatFormat) (word : Nat) : Nat :=
  if format.exponentField word = 0 then format.fraction word
  else (1 <<< format.fractionBits) + format.fraction word

/-- The numbers that round to a word of a finite, positive magnitude.  The gap below a power of
two is half the gap above it, except at the smallest exponent. -/
def roundingInterval (format : FloatFormat) (word : Nat) : Interval :=
  let field := format.exponentField word
  let quarter := format.unitExponent field - 2
  let magnitude := 4 * format.significand word
  let gapBelow := if format.fraction word = 0 ∧ 1 < field then 1 else 2
  { denominator := 1 <<< (-quarter).toNat
    low := (magnitude - gapBelow) <<< quarter.toNat
    value := magnitude <<< quarter.toNat
    high := (magnitude + 2) <<< quarter.toNat
    closed := format.significand word % 2 == 0 }

/-- The shortest decimal that reads back as a word of finite, positive magnitude.  No number of a
format of 64 bits or less needs a grid outside `10 ^ 308` to `10 ^ (-324)`. -/
def shortest? (format : FloatFormat) (word : Nat) : Option Scientific :=
  (format.roundingInterval word).shortest? 640 310

end FloatFormat

/-- A decimal written with a point. -/
def positional (decimal : Scientific) : String :=
  let digits := digits decimal.coefficient
  let places := (-decimal.exponent).toNat
  if places = 0 then
    String.ofList (digits ++ List.replicate decimal.exponent.toNat '0' ++ ['.', '0'])
  else
    let padded := List.replicate (places + 1 - digits.length) '0' ++ digits
    let whole := padded.length - places
    String.ofList (padded.take whole ++ '.' :: padded.drop whole)

/-- A decimal written with one digit before the point and an exponent. -/
def withExponent (decimal : Scientific) : String :=
  match digits decimal.coefficient with
  | [] => ""
  | first :: rest =>
    let exponent := decimal.exponent + rest.length
    let mantissa := if rest.isEmpty then [first] else first :: '.' :: rest
    String.ofList mantissa ++ "e" ++ toString exponent

/-- A decimal as it is written: with a point from `10 ^ (-4)` up to below `10 ^ 16`. -/
def Scientific.text (decimal : Scientific) : String :=
  let exponent := decimal.exponent + (digits decimal.coefficient).length - 1
  if -4 ≤ exponent ∧ exponent < 16 then positional decimal else withExponent decimal

/-- The text of a word. -/
def FloatFormat.text (format : FloatFormat) (word : Nat) : String :=
  let sign := if format.isNegative word then "-" else ""
  if format.exponentField word = format.specialField then
    if format.fraction word = 0 then sign ++ "inf" else "NaN"
  else if format.significand word = 0 then
    sign ++ "0.0"
  else
    match format.shortest? word with
    | some decimal => sign ++ decimal.text
    | none => sign

end Decimal

end CallGraph
