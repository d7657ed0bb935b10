import FeatureFlags.Text.CharSet

/-!
# Composed characters

A letter with a mark may be one character or two. A text is composed if it holds one wherever it
can. The tables leave out characters that have a small form, and marks that go with capitals only.
-/
namespace FeatureFlags.Text

/-- What a mark makes of the characters before it: those of the first text become those of the
second one, in the same order. -/
structure Composition where
  second : Nat
  firsts : String
  composites : String

/-- The compositions of characters that have no capital form. -/
def compositions : List Composition :=
  [⟨0x300, "aeinouwyâêôüăēōơưαεηιουωϊϋеиἀἁἐἑἠἡἰἱὀὁὐὑὠὡ",
     "àèìǹòùẁỳầềồǜằḕṑờừὰὲὴὶὸὺὼῒῢѐѝἂἃἒἓἢἣἲἳὂὃὒὓὢὣ"⟩,
   ⟨0x301, "acegiklmnoprsuwyzâåæçêïôõøüăēōũơưαεηιουωϊϋгкἀἁἐἑἠἡἰἱὀὁὐὑὠὡ",
     "áćéǵíḱĺḿńóṕŕśúẃýźấǻǽḉếḯốṍǿǘắḗṓṹớứάέήίόύώΐΰѓќἄἅἔἕἤἥἴἵὄὅὔὕὤὥ"⟩,
   ⟨0x302, "aceghijosuwyzạẹọ", "âĉêĝĥîĵôŝûŵŷẑậệộ"⟩, ⟨0x303, "aeinouvyâêôăơư", "ãẽĩñõũṽỹẫễỗẵỡữ"⟩,
   ⟨0x304, "aegiouyäæõöüǫȧȯαιυиуḷṛ", "āēḡīōūȳǟǣȭȫǖǭǡȱᾱῑῡӣӯḹṝ"⟩,
   ⟨0x306, "aegiouȩαιυаежиуạ", "ăĕğĭŏŭḝᾰῐῠӑӗӂйўặ"⟩,
   ⟨0x307, "abcdefghmnoprstwxyzśšṣ𐗒𐗚", "ȧḃċḋėḟġḣṁṅȯṗṙṡṫẇẋẏżṥṧṩ𐗉𐗤"⟩,
   ⟨0x308, "aehiotuwxyõūιυаежзиоучыэіәө", "äëḧïöẗüẅẍÿṏṻϊϋӓёӝӟӥӧӱӵӹӭїӛӫ"⟩,
   ⟨0x309, "aeiouyâêôăơư", "ảẻỉỏủỷẩểổẳởử"⟩, ⟨0x30a, "auwy", "åůẘẙ"⟩, ⟨0x30b, "ouу", "őűӳ"⟩,
   ⟨0x30c, "acdeghijklnorstuzüʒ", "ǎčďěǧȟǐǰǩľňǒřšťǔžǚǯ"⟩, ⟨0x30f, "aeioruѵ", "ȁȅȉȍȑȕѷ"⟩,
   ⟨0x311, "aeioru", "ȃȇȋȏȓȗ"⟩, ⟨0x313, "αεηιορυω", "ἀἐἠἰὀῤὐὠ"⟩, ⟨0x314, "αεηιορυω", "ἁἑἡἱὁῥὑὡ"⟩,
   ⟨0x31b, "ou", "ơư"⟩, ⟨0x323, "abdehiklmnorstuvwyzơư", "ạḅḍẹḥịḳḷṃṇọṛṣṭụṿẉỵẓợự"⟩,
   ⟨0x324, "u", "ṳ"⟩, ⟨0x325, "a", "ḁ"⟩, ⟨0x326, "st", "șț"⟩, ⟨0x327, "cdeghklnrst", "çḑȩģḩķļņŗşţ"⟩,
   ⟨0x328, "aeiou", "ąęįǫų"⟩, ⟨0x32d, "delntu", "ḓḙḽṋṱṷ"⟩, ⟨0x32e, "h", "ḫ"⟩, ⟨0x330, "eiu", "ḛḭṵ"⟩,
   ⟨0x331, "bdhklnrtz", "ḇḏẖḵḻṉṟṯẕ"⟩,
   ⟨0x338, "<=>←→↔⇐⇒⇔∃∈∋∣∥∼≃≅≈≍≡≤≥≲≳≶≷≺≻≼≽⊂⊃⊆⊇⊑⊒⊢⊨⊩⊫⊲⊳⊴⊵",
     "≮≠≯↚↛↮⇍⇏⇎∄∉∌∤∦≁≄≇≉≭≢≰≱≴≵≸≹⊀⊁⋠⋡⊄⊅⊈⊉⋢⋣⊬⊭⊮⊯⋪⋫⋬⋭"⟩,
   ⟨0x342, "αηιυωϊϋἀἁἠἡἰἱὐὑὠὡ", "ᾶῆῖῦῶῗῧἆἇἦἧἶἷὖὗὦὧ"⟩, ⟨0x653, "ا", "آ"⟩,
   ⟨0x654, "اويہےە", "أؤئۂۓۀ"⟩, ⟨0x655, "ا", "إ"⟩, ⟨0x93c, "नरळ", "ऩऱऴ"⟩,
   ⟨0x9be, "\u09c7", "\u09cb"⟩, ⟨0x9d7, "\u09c7", "\u09cc"⟩, ⟨0xb3e, "\u0b47", "\u0b4b"⟩,
   ⟨0xb56, "\u0b47", "\u0b48"⟩, ⟨0xb57, "\u0b47", "\u0b4c"⟩,
   ⟨0xbbe, "\u0bc6\u0bc7", "\u0bca\u0bcb"⟩, ⟨0xbd7, "ஒ\u0bc6", "ஔ\u0bcc"⟩,
   ⟨0xc56, "\u0c46", "\u0c48"⟩, ⟨0xcc2, "\u0cc6", "\u0cca"⟩,
   ⟨0xcd5, "\u0cbf\u0cc6\u0cca", "\u0cc0\u0cc7\u0ccb"⟩, ⟨0xcd6, "\u0cc6", "\u0cc8"⟩,
   ⟨0xd3e, "\u0d46\u0d47", "\u0d4a\u0d4b"⟩, ⟨0xd57, "\u0d46", "\u0d4c"⟩,
   ⟨0xdca, "\u0dd9\u0ddc", "\u0dda\u0ddd"⟩, ⟨0xdcf, "\u0dd9", "\u0ddc"⟩,
   ⟨0xddf, "\u0dd9", "\u0dde"⟩, ⟨0x102e, "ဥ", "ဦ"⟩,
   ⟨0x1b35, "ᬅᬇᬉᬋᬍᬑ\u1b3a\u1b3c\u1b3e\u1b3f\u1b42", "ᬆᬈᬊᬌᬎᬒ\u1b3b\u1b3d\u1b40\u1b41\u1b43"⟩,
   ⟨0x3099, "うかきくけこさしすせそたちつてとはひふへほゝウカキクケコサシスセソタチツテトハヒフヘホワヰヱヲヽ",
     "ゔがぎぐげござじずぜぞだぢづでどばびぶべぼゞヴガギグゲゴザジズゼゾダヂヅデドバビブベボヷヸヹヺヾ"⟩, ⟨0x309a, "はひふへほハヒフヘホ", "ぱぴぷぺぽパピプペポ"⟩,
   ⟨0x110ba, "𑂙𑂛𑂥", "𑂚𑂜𑂫"⟩, ⟨0x11127, "𑄱𑄲", "𑄮𑄯"⟩, ⟨0x1133e, "𑍇", "𑍋"⟩, ⟨0x11357, "𑍇", "𑍌"⟩,
   ⟨0x113b8, "𑏂", "𑏇"⟩, ⟨0x113bb, "𑎄", "𑎅"⟩, ⟨0x113c2, "𑎎", "𑎎𑏅"⟩, ⟨0x113c9, "𑎂𑎐𑏂", "𑎃𑎑𑏈"⟩,
   ⟨0x114b0, "𑒹", "𑒼"⟩, ⟨0x114ba, "𑒹", "𑒻"⟩, ⟨0x114bd, "𑒹", "𑒾"⟩, ⟨0x115af, "𑖸𑖹", "𑖺𑖻"⟩,
   ⟨0x11930, "𑤵", "𑤸"⟩, ⟨0x1611e, "𖄞", "𖄡"⟩, ⟨0x1611f, "𖄡𖄡𖄩𖄩", "𖄣𖄦𖄧𖄤"⟩, ⟨0x16120, "𖄡𖄞", "𖄥𖄨"⟩,
   ⟨0x16129, "𖄞", "𖄢"⟩, ⟨0x16d67, "𖵩𖵩", "𖵪𖵧𖵪"⟩]

/-- The class of each mark that is placed around a letter. Marks of different classes do not get in
each other's way, so that their order says nothing. -/
def combiningClasses : List (Nat × CharSet) :=
  [(1, .ofGaps
     [820, 5, 6555, 1, 13, 7, 1001, 2, 4, 3, 10, 2, 3, 2, 59725, 1, 24758, 5, 20905, 1, 5320, 3]),
   (6, .ofGaps [94192, 2]),
   (7, .ofGaps
     [2364, 1, 127, 1, 127, 1, 127, 1, 127, 1, 255, 1, 127, 1, 890, 1, 2812, 1, 177, 1, 80, 1,
      36219, 1, 26374, 1, 184, 1, 86, 1, 107, 1, 178, 1, 81, 2, 265, 1, 124, 1, 252, 1, 246, 1, 386,
      1, 264, 1, 1022, 1, 52231, 1]),
   (8, .ofGaps [12441, 2]),
   (9, .ofGaps
     [2381, 1, 127, 1, 127, 1, 127, 1, 127, 1, 127, 1, 127, 1, 127, 1, 109, 2, 16, 1, 124, 1, 111,
      1, 127, 1, 201, 1, 180, 2, 1753, 2, 30, 1, 157, 1, 653, 1, 227, 1, 101, 2, 70, 2, 4491, 1,
      31366, 1, 37, 1, 151, 1, 142, 1, 108, 1, 309, 1, 246, 1, 24145, 1, 1542, 1, 41, 1, 14, 1, 57,
      1, 121, 2, 139, 1, 116, 1, 180, 1, 98, 1, 128, 3, 113, 1, 127, 1, 252, 1, 127, 1, 118, 1, 116,
      1, 269, 1, 259, 2, 161, 1, 83, 1, 18, 1, 81, 1, 421, 1, 260, 2, 81, 1, 425, 2, 16876, 1]),
   (10, .ofGaps [1456, 1]), (11, .ofGaps [1457, 1]), (12, .ofGaps [1458, 1]),
   (13, .ofGaps [1459, 1]), (14, .ofGaps [1460, 1]), (15, .ofGaps [1461, 1]),
   (16, .ofGaps [1462, 1]), (17, .ofGaps [1463, 1]), (18, .ofGaps [1464, 1, 14, 1]),
   (19, .ofGaps [1465, 2]), (20, .ofGaps [1467, 1]), (21, .ofGaps [1468, 1]),
   (22, .ofGaps [1469, 1]), (23, .ofGaps [1471, 1]), (24, .ofGaps [1473, 1]),
   (25, .ofGaps [1474, 1]), (26, .ofGaps [64286, 1]), (27, .ofGaps [1611, 1, 676, 1]),
   (28, .ofGaps [1612, 1, 676, 1]), (29, .ofGaps [1613, 1, 676, 1]), (30, .ofGaps [1560, 1, 53, 1]),
   (31, .ofGaps [1561, 1, 53, 1]), (32, .ofGaps [1562, 1, 53, 1]), (33, .ofGaps [1617, 1]),
   (34, .ofGaps [1618, 1]), (35, .ofGaps [1648, 1]), (36, .ofGaps [1809, 1]),
   (84, .ofGaps [3157, 1]), (91, .ofGaps [3158, 1]), (103, .ofGaps [3640, 2]),
   (107, .ofGaps [3656, 4]), (118, .ofGaps [3768, 2]), (122, .ofGaps [3784, 4]),
   (129, .ofGaps [3953, 1]), (130, .ofGaps [3954, 1, 7, 4, 2, 1]), (132, .ofGaps [3956, 1]),
   (202, .ofGaps [801, 2, 4, 2, 6823, 1]), (214, .ofGaps [7630, 1]),
   (216, .ofGaps [795, 1, 3101, 1, 115243, 2, 7, 5]), (218, .ofGaps [7674, 1, 4655, 1]),
   (220, .ofGaps
     [790, 4, 2, 5, 2, 4, 2, 11, 5, 4, 10, 3, 3, 2, 4, 4, 2, 2, 566, 1, 4, 1, 4, 1, 6, 6, 2, 1, 26,
      1, 143, 2, 5, 1, 2, 1, 131, 1, 6, 1, 2, 1, 67, 1, 2, 1, 2, 3, 1, 2, 1, 1, 3, 1, 1, 1, 1, 1, 1,
      1, 169, 1, 10, 1, 91, 3, 61, 3, 51, 5, 15, 1, 2, 1, 2, 1, 3, 3, 6, 1, 2, 2, 87, 1, 1477, 2,
      27, 1, 1, 1, 142, 1, 198, 1, 2221, 1, 220, 1, 102, 1, 53, 6, 2, 1, 1, 2, 2, 2, 5, 1, 18, 1, 8,
      1, 133, 1, 360, 5, 2, 4, 13, 1, 212, 1, 7, 1, 4, 1, 41, 1, 3, 1, 1, 1, 744, 1, 3, 4, 34875, 3,
      390, 1, 21362, 7, 975, 1, 226, 1, 1836, 1, 44, 1, 171, 1, 1042, 3, 1, 3, 70, 2, 3, 1, 1, 4,
      50, 1, 1, 1, 49653, 8, 7, 2, 4962, 1, 256, 1, 736, 7]),
   (222, .ofGaps [1434, 1, 18, 1, 5003, 1, 5875, 1]), (224, .ofGaps [12334, 2]),
   (226, .ofGaps [119149, 1]), (228, .ofGaps [1454, 1, 4858, 1, 1357, 2, 4658, 1]),
   (230, .ofGaps
     [768, 21, 40, 3, 2, 1, 3, 1, 3, 3, 3, 3, 4, 1, 3, 1, 7, 13, 275, 5, 266, 4, 1, 3, 2, 6, 6, 2,
      1, 2, 2, 1, 20, 1, 75, 8, 59, 2, 2, 5, 1, 2, 119, 7, 2, 4, 1, 1, 2, 2, 2, 2, 67, 1, 1, 2, 1,
      2, 3, 1, 2, 1, 1, 3, 1, 1, 1, 1, 1, 1, 1, 2, 160, 7, 1, 1, 34, 4, 1, 9, 1, 3, 1, 5, 105, 2, 3,
      4, 42, 5, 5, 14, 2, 2, 1, 2, 1, 3, 6, 3, 1, 2, 2, 5, 81, 1, 1, 2, 169, 1, 1411, 2, 2, 2, 981,
      3, 1149, 1, 348, 1, 220, 1, 93, 8, 51, 5, 6, 2, 4, 2, 2, 5, 1, 18, 1, 8, 1, 4, 1, 5, 122, 1,
      1, 7, 348, 3, 7, 2, 4, 1, 19, 1, 3, 2, 198, 2, 1, 7, 1, 2, 4, 37, 5, 1, 2, 1, 721, 2, 2, 4, 3,
      2, 4, 1, 5, 1, 1, 1, 6, 1, 3070, 3, 238, 32, 30831, 1, 4, 10, 32, 2, 80, 2, 494, 18, 446, 1,
      1, 2, 3, 2, 5, 2, 1, 1, 21342, 7, 7, 2, 1350, 5, 1684, 1, 40, 1, 172, 1, 574, 4, 65, 5, 317,
      2, 155, 3, 1, 1, 53, 1, 1, 1, 379, 3, 611, 7, 3, 5, 233, 1, 22225, 7, 26190, 5, 32, 4, 148, 3,
      3515, 7, 1, 17, 2, 7, 1, 2, 1, 5, 100, 1, 160, 7, 375, 1, 61, 4, 511, 1, 254, 1, 244, 1, 2, 1,
      7, 2, 5, 1, 590, 6]),
   (232, .ofGaps [789, 1, 4, 1, 61, 1, 6813, 1, 4661, 1, 111807, 2]),
   (233, .ofGaps [860, 1, 2, 1, 2, 1, 6809, 1]), (234, .ofGaps [861, 2, 1, 2, 6025, 1, 737, 1])]

/-- All compositions as triples: two characters and what they make. -/
def compositionTriples : List (Char × Char × Char) :=
  compositions.flatMap fun e =>
    (e.firsts.toList.zip e.composites.toList).map fun (first, composite) =>
      (first, Char.ofNat e.second, composite)

/-- The class of a mark; letters and all other characters that stand on their own have the class
zero. -/
def combiningClass (c : Char) : Nat :=
  ((combiningClasses.find? (·.2.contains c)).map (·.1)).getD 0

/-! ## Syllables

A Korean syllable is made of a leading consonant, a vowel, and perhaps a trailing consonant, and its
number follows from theirs. -/

def leadingBase : Nat := 0x1100

def vowelBase : Nat := 0x1161

/-- One below the first trailing consonant, so that the offset zero means none. -/
def trailingBase : Nat := 0x11a7

def syllableBase : Nat := 0xac00

def leadingCount : Nat := 19

def vowelCount : Nat := 21

def trailingCount : Nat := 28

/-- The letters of a syllable. -/
def syllableLetters? (c : Char) : Option (List Char) :=
  let n := c.toNat - syllableBase
  if syllableBase ≤ c.toNat ∧ n < leadingCount * vowelCount * trailingCount then
    let leading := leadingBase + n / (vowelCount * trailingCount)
    let vowel := vowelBase + n % (vowelCount * trailingCount) / trailingCount
    let trailing := trailingBase + n % trailingCount
    some ([leading, vowel, trailing].filter (· ≠ trailingBase) |>.map Char.ofNat)
  else none

/-- The syllable of a leading consonant and a vowel, or of an open syllable and a trailing
consonant. -/
def syllable? (first second : Char) : Option Char :=
  let a := first.toNat
  let b := second.toNat
  if leadingBase ≤ a ∧ a < leadingBase + leadingCount ∧
      vowelBase ≤ b ∧ b < vowelBase + vowelCount then
    some (Char.ofNat (syllableBase +
      ((a - leadingBase) * vowelCount + (b - vowelBase)) * trailingCount))
  else if syllableBase ≤ a ∧ a < syllableBase + leadingCount * vowelCount * trailingCount ∧
      (a - syllableBase) % trailingCount = 0 ∧
      trailingBase < b ∧ b < trailingBase + trailingCount then
    some (Char.ofNat (a + (b - trailingBase)))
  else none

/-! ## Taking apart and putting together -/

/-- What a character is made of. The number bounds how often a part is made of parts. -/
def parts : Nat → Char → List Char
  | 0, c => [c]
  | depth + 1, c =>
    match syllableLetters? c, compositionTriples.find? (·.2.2 = c) with
    | some letters, _ => letters
    | none, some (first, second, _) => parts depth first ++ parts depth second
    | none, none => [c]

/-- Puts a character in front, behind the marks that are of a lower class than its own. -/
def insertMark (c : Char) : List Char → List Char
  | [] => [c]
  | d :: rest =>
    if 0 < combiningClass d ∧ combiningClass d < combiningClass c then d :: insertMark c rest
    else c :: d :: rest

/-- A text with all characters taken apart, and the marks of each letter in the order of their
classes. -/
def decompose (s : List Char) : List Char := (s.flatMap (parts 2)).foldr insertMark []

/-- What two characters make together. -/
def composite? (first second : Char) : Option Char :=
  (syllable? first second).or
    ((compositionTriples.find? fun t => t.1 = first && t.2.1 = second).map (·.2.2))

/-- Adds a text to a letter. Some marks may stand behind the letter already, the last one first and
`last` its class: a mark of the same class or a higher one keeps others from reaching the letter. -/
def composeOnto (letter : Char) (marks : List Char) (last : Nat) : List Char → List Char
  | [] => letter :: marks.reverse
  | c :: rest =>
    let own := combiningClass c
    match if marks.isEmpty || last < own then composite? letter c else none with
    | some composite => composeOnto composite marks last rest
    | none =>
      if own = 0 then letter :: marks.reverse ++ composeOnto c [] 0 rest
      else composeOnto letter (c :: marks) own rest

/-- A text with all characters that may stand together as one put together. -/
def compose (s : List Char) : List Char :=
  let (front, rest) := (decompose s).span (0 < combiningClass ·)
  match rest with
  | [] => front
  | letter :: rest => front ++ composeOnto letter [] 0 rest

end FeatureFlags.Text
