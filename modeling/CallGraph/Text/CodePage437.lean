import CallGraph.Bytes

/-!
# Code page 437

Archives name their entries in code page 437 unless an entry says otherwise.  The lower half of
the page is ASCII; the upper half is a table of 128 characters.
-/

namespace CallGraph

namespace CodePage437

/-- The characters of the upper half, from 128 to 255. -/
def upperHalf : List Char :=
  ['Ç', 'ü', 'é', 'â', 'ä', 'à', 'å', 'ç', 'ê', 'ë', 'è', 'ï', 'î', 'ì', 'Ä', 'Å',
   'É', 'æ', 'Æ', 'ô', 'ö', 'ò', 'û', 'ù', 'ÿ', 'Ö', 'Ü', '¢', '£', '¥', '₧', 'ƒ',
   'á', 'í', 'ó', 'ú', 'ñ', 'Ñ', 'ª', 'º', '¿', '⌐', '¬', '½', '¼', '¡', '«', '»',
   '░', '▒', '▓', '│', '┤', '╡', '╢', '╖', '╕', '╣', '║', '╗', '╝', '╜', '╛', '┐',
   '└', '┴', '┬', '├', '─', '┼', '╞', '╟', '╚', '╔', '╩', '╦', '╠', '═', '╬', '╧',
   '╨', '╤', '╥', '╙', '╘', '╒', '╓', '╫', '╪', '┘', '┌', '█', '▄', '▌', '▐', '▀',
   'α', 'ß', 'Γ', 'π', 'Σ', 'σ', 'µ', 'τ', 'Φ', 'Θ', 'Ω', 'δ', '∞', 'φ', 'ε', '∩',
   '≡', '±', '≥', '≤', '⌠', '⌡', '÷', '≈', '°', '∙', '·', '√', 'ⁿ', '²', '■', '\u00a0']

/-- The character of a byte. -/
def char (byte : UInt8) : Char :=
  if byte < 128 then Char.ofNat byte.toNat
  else upperHalf.getD (byte.toNat - 128) ' '

/-- The text of a byte string. -/
def decode (bytes : Bytes) : String :=
  String.ofList (bytes.map char)

/-- The table has a character for every byte of the upper half. -/
theorem length_upperHalf : upperHalf.length = 128 := by
  rfl

end CodePage437

end CallGraph
