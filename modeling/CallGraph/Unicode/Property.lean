import CallGraph.Unicode.Category

/-!
# Properties of characters

The properties that patterns and other texts ask for.  All but the list of alphabetic marks and
symbols follow from the general categories.

Scripts, ages, the boundaries of graphemes, words and sentences, and the binary properties other
than those below have no tables here, and their names stand for nothing.
-/

namespace CallGraph

namespace Unicode

/-- Whether a number lies in one of the given ranges. -/
def inRanges (ranges : List (Nat × Nat)) (number : Nat) : Bool :=
  ranges.any fun range => range.1 ≤ number && number ≤ range.2

/-- Whether a character is white space. -/
def isBlank (char : Char) : Bool :=
  inRanges
    [(9, 13), (32, 32), (0x85, 0x85), (0xa0, 0xa0), (0x1680, 0x1680), (0x2000, 0x200a),
     (0x2028, 0x2029), (0x202f, 0x202f), (0x205f, 0x205f), (0x3000, 0x3000)]
    char.toNat

/-- The categories of letters. -/
def letters : List Category :=
  [.uppercaseLetter, .lowercaseLetter, .titlecaseLetter, .modifierLetter, .otherLetter]

/-- The categories of marks. -/
def marks : List Category :=
  [.nonspacingMark, .spacingMark, .enclosingMark]

/-- The categories of numbers. -/
def numbers : List Category :=
  [.decimalNumber, .letterNumber, .otherNumber]

/-- The categories of punctuation. -/
def punctuation : List Category :=
  [.connectorPunctuation, .dashPunctuation, .openPunctuation, .closePunctuation,
   .initialPunctuation, .finalPunctuation, .otherPunctuation]

/-- The categories of symbols. -/
def symbols : List Category :=
  [.mathSymbol, .currencySymbol, .modifierSymbol, .otherSymbol]

/-- The categories of separators. -/
def separators : List Category :=
  [.spaceSeparator, .lineSeparator, .paragraphSeparator]

/-- The categories of everything else. -/
def others : List Category :=
  [.control, .format, .surrogate, .privateUse, .unassigned]

/-- The categories of what words are made of. -/
def wordCategories : List Category :=
  [.decimalNumber, .letterNumber, .connectorPunctuation] ++ letters ++ marks

/-- The alphabetic characters that are neither letters nor numbers like letters. -/
def alphabeticMarks : List (Nat × Nat) :=
  [(837, 837), (1456, 1469), (1471, 1471), (1473, 1474), (1476, 1477), (1479, 1479),
   (1552, 1562), (1611, 1623), (1625, 1631), (1648, 1648), (1750, 1756), (1761, 1764),
   (1767, 1768), (1773, 1773), (1809, 1809), (1840, 1855), (1958, 1968), (2070, 2071),
   (2075, 2083), (2085, 2087), (2089, 2092), (2199, 2199), (2260, 2271), (2275, 2281),
   (2288, 2307), (2362, 2363), (2366, 2380), (2382, 2383), (2389, 2391), (2402, 2403),
   (2433, 2435), (2494, 2500), (2503, 2504), (2507, 2508), (2519, 2519), (2530, 2531),
   (2561, 2563), (2622, 2626), (2631, 2632), (2635, 2636), (2641, 2641), (2672, 2673),
   (2677, 2677), (2689, 2691), (2750, 2757), (2759, 2761), (2763, 2764), (2786, 2787),
   (2810, 2812), (2817, 2819), (2878, 2884), (2887, 2888), (2891, 2892), (2902, 2903),
   (2914, 2915), (2946, 2946), (3006, 3010), (3014, 3016), (3018, 3020), (3031, 3031),
   (3072, 3076), (3134, 3140), (3142, 3144), (3146, 3148), (3157, 3158), (3170, 3171),
   (3201, 3203), (3262, 3268), (3270, 3272), (3274, 3276), (3285, 3286), (3298, 3299),
   (3315, 3315), (3328, 3331), (3390, 3396), (3398, 3400), (3402, 3404), (3415, 3415),
   (3426, 3427), (3457, 3459), (3535, 3540), (3542, 3542), (3544, 3551), (3570, 3571),
   (3633, 3633), (3636, 3642), (3661, 3661), (3761, 3761), (3764, 3769), (3771, 3772),
   (3789, 3789), (3953, 3971), (3981, 3991), (3993, 4028), (4139, 4150), (4152, 4152),
   (4155, 4158), (4182, 4185), (4190, 4192), (4194, 4196), (4199, 4205), (4209, 4212),
   (4226, 4237), (4239, 4239), (4250, 4253), (5906, 5907), (5938, 5939), (5970, 5971),
   (6002, 6003), (6070, 6088), (6277, 6278), (6313, 6313), (6432, 6443), (6448, 6456),
   (6679, 6683), (6741, 6750), (6753, 6772), (6847, 6848), (6860, 6862), (6912, 6916),
   (6965, 6979), (7040, 7042), (7073, 7081), (7084, 7085), (7143, 7153), (7204, 7222),
   (7655, 7668), (9398, 9449), (11744, 11775), (42612, 42619), (42654, 42655), (43010, 43010),
   (43019, 43019), (43043, 43047), (43136, 43137), (43188, 43203), (43205, 43205),
   (43263, 43263), (43302, 43306), (43335, 43346), (43392, 43395), (43444, 43455),
   (43493, 43493), (43561, 43574), (43587, 43587), (43596, 43597), (43643, 43645),
   (43696, 43696), (43698, 43700), (43703, 43704), (43710, 43710), (43755, 43759),
   (43765, 43765), (44003, 44010), (64286, 64286), (66422, 66426), (68097, 68099),
   (68101, 68102), (68108, 68111), (68900, 68903), (68969, 68969), (69291, 69292),
   (69372, 69372), (69632, 69634), (69688, 69701), (69747, 69748), (69760, 69762),
   (69808, 69816), (69826, 69826), (69888, 69890), (69927, 69938), (69957, 69958),
   (70016, 70018), (70067, 70079), (70094, 70095), (70188, 70196), (70199, 70199),
   (70206, 70206), (70209, 70209), (70367, 70376), (70400, 70403), (70462, 70468),
   (70471, 70472), (70475, 70476), (70487, 70487), (70498, 70499), (70584, 70592),
   (70594, 70594), (70597, 70597), (70599, 70602), (70604, 70605), (70709, 70721),
   (70723, 70725), (70832, 70849), (71087, 71093), (71096, 71102), (71132, 71133),
   (71216, 71230), (71232, 71232), (71339, 71349), (71453, 71466), (71724, 71736),
   (71984, 71989), (71991, 71992), (71995, 71996), (72000, 72000), (72002, 72002),
   (72145, 72151), (72154, 72159), (72164, 72164), (72193, 72202), (72245, 72249),
   (72251, 72254), (72273, 72283), (72330, 72343), (72751, 72758), (72760, 72766),
   (72850, 72871), (72873, 72886), (73009, 73014), (73018, 73018), (73020, 73021),
   (73023, 73025), (73027, 73027), (73031, 73031), (73098, 73102), (73104, 73105),
   (73107, 73110), (73459, 73462), (73472, 73473), (73475, 73475), (73524, 73530),
   (73534, 73536), (90398, 90414), (94031, 94031), (94033, 94087), (94095, 94098),
   (94192, 94193), (113822, 113822), (122880, 122886), (122888, 122904), (122907, 122913),
   (122915, 122916), (122918, 122922), (123023, 123023), (125255, 125255), (127280, 127305),
   (127312, 127337), (127344, 127369)]

/-- Letters in circles and squares, which are symbols. -/
def enclosedLetters : List (Nat × Nat) :=
  [(0x24b6, 0x24e9), (0x1f130, 0x1f149), (0x1f150, 0x1f169), (0x1f170, 0x1f189)]

/-- The lower-case characters that are no lower-case letters. -/
def lowercaseMarks : List (Nat × Nat) :=
  [(0xaa, 0xaa), (0xba, 0xba), (0x2b0, 0x2b8), (0x2c0, 0x2c1), (0x2e0, 0x2e4), (0x345, 0x345),
   (0x37a, 0x37a), (0x10fc, 0x10fc), (0x1d2c, 0x1d6a), (0x1d78, 0x1d78), (0x1d9b, 0x1dbf),
   (0x2071, 0x2071), (0x207f, 0x207f), (0x2090, 0x209c), (0x2170, 0x217f), (0x24d0, 0x24e9),
   (0x2c7c, 0x2c7d), (0xa69c, 0xa69d), (0xa770, 0xa770), (0xa7f2, 0xa7f4), (0xa7f8, 0xa7f9),
   (0xab5c, 0xab5f), (0xab69, 0xab69), (0x10780, 0x10780), (0x10783, 0x10785),
   (0x10787, 0x107b0), (0x107b2, 0x107ba), (0x1e030, 0x1e06d)]

/-- The upper-case characters that are no upper-case letters. -/
def uppercaseMarks : List (Nat × Nat) :=
  [(0x2160, 0x216f), (0x24b6, 0x24cf), (0x1f130, 0x1f149), (0x1f150, 0x1f169),
   (0x1f170, 0x1f189)]

/-- A property of characters. -/
inductive Property where
  | any
  | ascii
  | blank
  /-- Letters, numbers like letters, and what else counts as alphabetic. -/
  | alphabetic
  | lowercase
  | uppercase
  /-- What words are made of: alphabetic characters, marks, decimal digits, connectors and
  joiners. -/
  | word
  /-- The characters of one of the given categories. -/
  | inCategories (categories : List Category)
  deriving DecidableEq, Repr

/-- Whether a character has a property. -/
def Property.holds : Property → Char → Bool
  | any, _ => true
  | ascii, char => char.toNat < 128
  | blank, char => isBlank char
  | alphabetic, char =>
      (Category.letterNumber :: letters).contains (category char) ||
        inRanges alphabeticMarks char.toNat
  | lowercase, char =>
      category char == .lowercaseLetter || inRanges lowercaseMarks char.toNat
  | uppercase, char =>
      category char == .uppercaseLetter || inRanges uppercaseMarks char.toNat
  | word, char =>
      wordCategories.contains (category char) ||
      inRanges ((0x200c, 0x200d) :: enclosedLetters) char.toNat
  | inCategories categories, char => categories.contains (category char)

/-- Whether a character is alphabetic. -/
def isAlphabetic (char : Char) : Bool :=
  Property.alphabetic.holds char

/-- Whether a character is alphabetic or a number. -/
def isAlphanumeric (char : Char) : Bool :=
  isAlphabetic char || numbers.contains (category char)

/-! ## Names of properties -/

/-- The decimal digits. -/
def Property.decimal : Property := .inCategories [.decimalNumber]

/-- A name as it is compared: without blanks, hyphens and underscores, without regard to case, and
without a leading `is`. -/
def looseName (name : String) : String :=
  let bare := match name.toList with
    | 'i' :: 's' :: rest | 'I' :: 's' :: rest | 'i' :: 'S' :: rest | 'I' :: 'S' :: rest => rest
    | chars => chars
  String.ofList <| (bare.filter fun char =>
    char != ' ' && char != '_' && char != '-' && char.toNat < 128).map Char.toLower

/-- The long name of a category, as it is compared. -/
def Category.longName : Category → String
  | uppercaseLetter => "uppercaseletter"
  | lowercaseLetter => "lowercaseletter"
  | titlecaseLetter => "titlecaseletter"
  | modifierLetter => "modifierletter"
  | otherLetter => "otherletter"
  | nonspacingMark => "nonspacingmark"
  | spacingMark => "spacingmark"
  | enclosingMark => "enclosingmark"
  | decimalNumber => "decimalnumber"
  | letterNumber => "letternumber"
  | otherNumber => "othernumber"
  | connectorPunctuation => "connectorpunctuation"
  | dashPunctuation => "dashpunctuation"
  | openPunctuation => "openpunctuation"
  | closePunctuation => "closepunctuation"
  | initialPunctuation => "initialpunctuation"
  | finalPunctuation => "finalpunctuation"
  | otherPunctuation => "otherpunctuation"
  | mathSymbol => "mathsymbol"
  | currencySymbol => "currencysymbol"
  | modifierSymbol => "modifiersymbol"
  | otherSymbol => "othersymbol"
  | spaceSeparator => "spaceseparator"
  | lineSeparator => "lineseparator"
  | paragraphSeparator => "paragraphseparator"
  | control => "control"
  | format => "format"
  | surrogate => "surrogate"
  | privateUse => "privateuse"
  | unassigned => "unassigned"

/-- The groups of categories that have names of their own. -/
def categoryGroups : List (List String × List Category) :=
  [(["l", "letter"], letters),
   (["lc", "casedletter"], [.uppercaseLetter, .lowercaseLetter, .titlecaseLetter]),
   (["m", "mark", "combiningmark"], marks),
   (["n", "number"], numbers),
   (["p", "punctuation", "punct"], punctuation),
   (["s", "symbol"], symbols),
   (["z", "separator"], separators),
   (["c", "other"], others),
   (["cntrl"], [.control]),
   (["digit"], [.decimalNumber])]

/-- The property that a name for a category stands for. -/
def Property.ofCategoryName? (name : String) : Option Property :=
  match looseName name with
  | "any" => some .any
  | "ascii" => some .ascii
  | "assigned" => some (.inCategories (Category.all.filter (· != .unassigned)))
  | loose =>
    match categoryGroups.find? (·.1.contains loose) with
    | some group => some (.inCategories group.2)
    | none =>
      (Category.all.find? fun candidate =>
        loose == candidate.longName ||
          loose.toList == candidate.abbreviation.toList.map Char.toLower).map
        fun found => .inCategories [found]

/-- The property that a name stands for. -/
def Property.ofName? (name : String) : Option Property :=
  match looseName name with
  | "alphabetic" | "alpha" => some .alphabetic
  | "lowercase" | "lower" => some .lowercase
  | "uppercase" | "upper" => some .uppercase
  | "whitespace" | "wspace" | "space" => some .blank
  | _ => Property.ofCategoryName? name

end Unicode

end CallGraph
