import CallGraph.Text.Utf8

/-!
# Modified UTF-8

Class files spell their texts in a variant of UTF-8: the null character is two bytes, and a
character outside the basic plane is a surrogate pair of three bytes each.  A text that happens
to be plain UTF-8 is taken as such.
-/

namespace CallGraph

namespace ModifiedUtf8

/-- Whether two bytes begin a three-byte sequence for a high surrogate. -/
def startsHigh (first second : UInt8) : Bool :=
  first == 0xed && 0xa0 ≤ second && second < 0xb0

/-- Whether two bytes begin a three-byte sequence for a low surrogate. -/
def startsLow (first second : UInt8) : Bool :=
  first == 0xed && 0xb0 ≤ second && second < 0xc0

/-- The character of a surrogate pair, given the second and third byte of either half. -/
def pair (second third fifth sixth : UInt8) : Char :=
  let high := second.toNat % 16 * 64 + Utf8.payload third
  let low := fifth.toNat % 16 * 64 + Utf8.payload sixth
  Char.ofNat (0x10000 + high * 1024 + low)

/-- The characters that bytes spell in modified UTF-8; `none` for anything else. -/
def decodeChars? : Bytes → Option (List Char)
  | [] => some []
  | first :: rest =>
    if first = 0 then none
    else if first < 0x80 then (decodeChars? rest).map (Char.ofNat first.toNat :: ·)
    else
      match rest with
      | [] => none
      | second :: rest₁ =>
        if (0xc2 ≤ first && first < 0xe0 && Utf8.isContinuation second) ||
            (first == 0xc0 && second == 0x80) then
          (decodeChars? rest₁).map (Utf8.char2 first second :: ·)
        else
          match rest₁ with
          | [] => none
          | third :: rest₂ =>
            if !Utf8.isContinuation third then none
            else if Utf8.startsThree first second then
              (decodeChars? rest₂).map (Utf8.char3 first second third :: ·)
            else if startsHigh first second then
              match rest₂ with
              | fourth :: fifth :: sixth :: rest₃ =>
                if startsLow fourth fifth && Utf8.isContinuation sixth then
                  (decodeChars? rest₃).map (pair second third fifth sixth :: ·)
                else none
              | _ => none
            else none

/-- The text of a class file's bytes: plain UTF-8 where they are that, modified UTF-8 else. -/
def decode? (bytes : Bytes) : Option String :=
  match Utf8.decode? bytes with
  | some text => some text
  | none => (decodeChars? bytes).map String.ofList

end ModifiedUtf8

end CallGraph
