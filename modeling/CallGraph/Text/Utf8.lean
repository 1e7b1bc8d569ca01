import CallGraph.Bytes

/-!
# Reading UTF-8

A byte string that is no UTF-8 is read in one of two ways.  With replacement, every longest
beginning of a character that is not completed becomes one replacement character.  Without it,
the reading is refused.
-/

namespace CallGraph

namespace Utf8

/-- The text that bytes spell, when they are UTF-8. -/
def decode? (bytes : Bytes) : Option String :=
  String.fromUTF8? bytes.toByteArray

/-- Whether a byte continues a character. -/
def isContinuation (byte : UInt8) : Bool :=
  0x80 ≤ byte && byte < 0xc0

/-- The low six bits of a byte that continues a character. -/
def payload (byte : UInt8) : Nat :=
  byte.toNat % 64

/-- The character of a two-byte sequence. -/
def char2 (first second : UInt8) : Char :=
  Char.ofNat (first.toNat % 32 * 64 + payload second)

/-- The character of a three-byte sequence. -/
def char3 (first second third : UInt8) : Char :=
  Char.ofNat ((first.toNat % 16 * 64 + payload second) * 64 + payload third)

/-- The character of a four-byte sequence. -/
def char4 (first second third fourth : UInt8) : Char :=
  Char.ofNat (((first.toNat % 8 * 64 + payload second) * 64 + payload third) * 64 +
    payload fourth)

/-- Whether `second` may follow `first` in a sequence of three bytes: no surrogates, and nothing
that fits in two bytes. -/
def startsThree (first second : UInt8) : Bool :=
  (first == 0xe0 && 0xa0 ≤ second && second < 0xc0) ||
  (first == 0xed && 0x80 ≤ second && second < 0xa0) ||
  (0xe0 < first && first < 0xf0 && first != 0xed && isContinuation second)

/-- Whether `second` may follow `first` in a sequence of four bytes: nothing that fits in three
bytes, and nothing past the last code point. -/
def startsFour (first second : UInt8) : Bool :=
  (first == 0xf0 && 0x90 ≤ second && second < 0xc0) ||
  (first == 0xf4 && 0x80 ≤ second && second < 0x90) ||
  (0xf0 < first && first < 0xf4 && isContinuation second)

/-- What stands for bytes that spell no character. -/
def replacement : Char := Char.ofNat 0xfffd

/-- The characters that bytes spell, with a replacement character for each longest beginning
of a character that is not completed and for each byte that begins none. -/
def decodeChars : Bytes → List Char
  | [] => []
  | first :: rest =>
    if first < 0x80 then Char.ofNat first.toNat :: decodeChars rest
    else
      match rest with
      | [] => [replacement]
      | second :: rest₁ =>
        if 0xc2 ≤ first && first < 0xe0 && isContinuation second then
          char2 first second :: decodeChars rest₁
        else if startsThree first second then
          match rest₁ with
          | [] => [replacement]
          | third :: rest₂ =>
            if isContinuation third then char3 first second third :: decodeChars rest₂
            else replacement :: decodeChars (third :: rest₂)
        else if startsFour first second then
          match rest₁ with
          | [] => [replacement]
          | third :: rest₂ =>
            if isContinuation third then
              match rest₂ with
              | [] => [replacement]
              | fourth :: rest₃ =>
                if isContinuation fourth then
                  char4 first second third fourth :: decodeChars rest₃
                else replacement :: decodeChars (fourth :: rest₃)
            else replacement :: decodeChars (third :: rest₂)
        else replacement :: decodeChars (second :: rest₁)

/-- The text that bytes spell, with replacements. -/
def decodeReplacing (bytes : Bytes) : String :=
  match decode? bytes with
  | some text => text
  | none => String.ofList (decodeChars bytes)

end Utf8

end CallGraph
