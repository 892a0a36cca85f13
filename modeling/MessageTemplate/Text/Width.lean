/-
Display width.

In a terminal a character takes one column, or two if its East Asian width is wide or
full.  Some characters take none, as they are shown in the place of a neighbour, and some
pairs of characters are shown as one; so a text is measured from its end, and what comes
after a character may take its column away.  Combining marks never come here, because
quoted text shows them by their codes.
-/
import MessageTemplate.Text.Ranges

namespace MessageTemplate

namespace Text

/-! ### Single characters -/

/-- The code points whose East Asian width is wide or full. -/
def wide : List Nat :=
  [
   0x1100, 0x115f, 0x17a4, 0x17a4, 0x231a, 0x231b, 0x2329, 0x232a, 0x23e9, 0x23ec, 0x23f0,
   0x23f0, 0x23f3, 0x23f3, 0x25fd, 0x25fe, 0x2614, 0x2615, 0x2630, 0x2637, 0x2648, 0x2653,
   0x267f, 0x267f, 0x268a, 0x268f, 0x2693, 0x2693, 0x26a1, 0x26a1, 0x26aa, 0x26ab, 0x26bd,
   0x26be, 0x26c4, 0x26c5, 0x26ce, 0x26ce, 0x26d4, 0x26d4, 0x26ea, 0x26ea, 0x26f2, 0x26f3,
   0x26f5, 0x26f5, 0x26fa, 0x26fa, 0x26fd, 0x26fd, 0x2705, 0x2705, 0x270a, 0x270b, 0x2728,
   0x2728, 0x274c, 0x274c, 0x274e, 0x274e, 0x2753, 0x2755, 0x2757, 0x2757, 0x2795, 0x2797,
   0x27b0, 0x27b0, 0x27bf, 0x27bf, 0x2b1b, 0x2b1c, 0x2b50, 0x2b50, 0x2b55, 0x2b55, 0x2e80,
   0x2e99, 0x2e9b, 0x2ef3, 0x2f00, 0x2fd5, 0x2ff0, 0x303e, 0x3041, 0x3096, 0x3099, 0x30ff,
   0x3105, 0x312f, 0x3131, 0x318e, 0x3190, 0x31e5, 0x31ef, 0x321e, 0x3220, 0x3247, 0x3250,
   0xa48c, 0xa490, 0xa4c6, 0xa960, 0xa97c, 0xac00, 0xd7a3, 0xf900, 0xfaff, 0xfe10, 0xfe19,
   0xfe30, 0xfe52, 0xfe54, 0xfe66, 0xfe68, 0xfe6b, 0xff01, 0xff60, 0xffe0, 0xffe6, 0x16fe0,
   0x16fe4, 0x16ff0, 0x16ff6, 0x17000, 0x18cd5, 0x18cff, 0x18d1e, 0x18d80, 0x18df2, 0x1aff0,
   0x1aff3, 0x1aff5, 0x1affb, 0x1affd, 0x1affe, 0x1b000, 0x1b122, 0x1b132, 0x1b132, 0x1b150,
   0x1b152, 0x1b155, 0x1b155, 0x1b164, 0x1b167, 0x1b170, 0x1b2fb, 0x1d300, 0x1d356, 0x1d360,
   0x1d376, 0x1f004, 0x1f004, 0x1f0cf, 0x1f0cf, 0x1f18e, 0x1f18e, 0x1f191, 0x1f19a, 0x1f200,
   0x1f202, 0x1f210, 0x1f23b, 0x1f240, 0x1f248, 0x1f250, 0x1f251, 0x1f260, 0x1f265, 0x1f300,
   0x1f320, 0x1f32d, 0x1f335, 0x1f337, 0x1f37c, 0x1f37e, 0x1f393, 0x1f3a0, 0x1f3ca, 0x1f3cf,
   0x1f3d3, 0x1f3e0, 0x1f3f0, 0x1f3f4, 0x1f3f4, 0x1f3f8, 0x1f43e, 0x1f440, 0x1f440, 0x1f442,
   0x1f4fc, 0x1f4ff, 0x1f53d, 0x1f54b, 0x1f54e, 0x1f550, 0x1f567, 0x1f57a, 0x1f57a, 0x1f595,
   0x1f596, 0x1f5a4, 0x1f5a4, 0x1f5fb, 0x1f64f, 0x1f680, 0x1f6c5, 0x1f6cc, 0x1f6cc, 0x1f6d0,
   0x1f6d2, 0x1f6d5, 0x1f6d8, 0x1f6dc, 0x1f6df, 0x1f6eb, 0x1f6ec, 0x1f6f4, 0x1f6fc, 0x1f7e0,
   0x1f7eb, 0x1f7f0, 0x1f7f0, 0x1f90c, 0x1f93a, 0x1f93c, 0x1f945, 0x1f947, 0x1f9ff, 0x1fa70,
   0x1fa7c, 0x1fa80, 0x1fa8a, 0x1fa8e, 0x1fac6, 0x1fac8, 0x1fac8, 0x1facd, 0x1fadc, 0x1fadf,
   0x1faea, 0x1faef, 0x1faf8, 0x20000, 0x2fffd, 0x30000, 0x3fffd]

/-- The code points of characters that take no column: the vowels and finals of Hangul
syllables that are written letter by letter, a caret that stands below a line, and letters
that are written as marks on the letter after them. -/
def columnless : List Nat :=
  [0xd4e, 0xd4e, 0x1160, 0x11ff, 0xa8fa, 0xa8fa, 0xd7b0, 0xd7c6, 0xd7cb, 0xd7fb, 0x111c2,
   0x111c3, 0x113d1, 0x113d1, 0x1193f, 0x1193f, 0x11941, 0x11941, 0x11a3a, 0x11a3a, 0x11a84,
   0x11a89, 0x11d46, 0x11d46, 0x11f02, 0x11f02]

/-- The number of columns that a character takes on its own.  The Khmer sign that stands
for "and so on" is three letters wide. -/
def columns (c : Char) : Nat :=
  let n := c.toNat
  if n == 0x17d8 then 3
  else if inRanges n columnless then 0
  else if inRanges n wide then 2
  else 1

/-! ### Pairs of characters -/

/-- The Arabic letters that are an alef with or without marks. -/
def alefs : List Nat :=
  [0x622, 0x623, 0x625, 0x625, 0x627, 0x627, 0x671, 0x673, 0x675, 0x675, 0x773, 0x774, 0x870,
   0x882]

/-- The Arabic letters that are a lam with or without marks. -/
def lams : List Nat :=
  [0x644, 0x644, 0x6b5, 0x6b8, 0x76a, 0x76a, 0x8a6, 0x8a6, 0x8c7, 0x8c7]

/-- The colours of skin. -/
def skinColours : List Nat :=
  [0x1f3fb, 0x1f3ff]

/-- The pictures of people and parts of the body, which take a colour of skin. -/
def skinPictures : List Nat :=
  [
   0x261d, 0x261d, 0x26f9, 0x26f9, 0x270a, 0x270d, 0x1f385, 0x1f385, 0x1f3c2, 0x1f3c4, 0x1f3c7,
   0x1f3c7, 0x1f3ca, 0x1f3cc, 0x1f442, 0x1f443, 0x1f446, 0x1f450, 0x1f466, 0x1f478, 0x1f47c,
   0x1f47c, 0x1f481, 0x1f483, 0x1f485, 0x1f487, 0x1f48f, 0x1f48f, 0x1f491, 0x1f491, 0x1f4aa,
   0x1f4aa, 0x1f574, 0x1f575, 0x1f57a, 0x1f57a, 0x1f590, 0x1f590, 0x1f595, 0x1f596, 0x1f645,
   0x1f647, 0x1f64b, 0x1f64f, 0x1f6a3, 0x1f6a3, 0x1f6b4, 0x1f6b6, 0x1f6c0, 0x1f6c0, 0x1f6cc,
   0x1f6cc, 0x1f90c, 0x1f90c, 0x1f90f, 0x1f90f, 0x1f918, 0x1f91f, 0x1f926, 0x1f926, 0x1f930,
   0x1f939, 0x1f93c, 0x1f93e, 0x1f977, 0x1f977, 0x1f9b5, 0x1f9b6, 0x1f9b8, 0x1f9b9, 0x1f9bb,
   0x1f9bb, 0x1f9cd, 0x1f9cf, 0x1f9d1, 0x1f9dd, 0x1fac3, 0x1fac5, 0x1faf0, 0x1faf8]

/-- The Lisu tone letters that come first in a pair. -/
def firstTones : List Nat :=
  [0xa4f8, 0xa4fb]

/-- The Lisu tone letters that come second in a pair. -/
def secondTones : List Nat :=
  [0xa4fc, 0xa4fd]

/-- What a text begins with, as far as a character before it can be shown together with
it. -/
inductive Opening where
  /-- Nothing that takes part in a pair. -/
  | plain
  | alef
  | skinColour
  | secondTone
  /-- The vowel E of Kirat Rai. -/
  | vowelE
  /-- The vowel AI of Kirat Rai, which is written as E twice. -/
  | vowelAi
deriving DecidableEq

/-- What a character opens, the vowels of Kirat Rai apart. -/
def Opening.of (c : Char) : Opening :=
  let n := c.toNat
  if inRanges n alefs then .alef
  else if inRanges n skinColours then .skinColour
  else if inRanges n secondTones then .secondTone
  else .plain

/-- Whether a character and what comes after it are shown in the place of the latter. -/
def joins (c : Char) : Opening → Bool
  | .alef => inRanges c.toNat lams
  | .skinColour => inRanges c.toNat skinPictures
  | .secondTone => inRanges c.toNat firstTones
  | .plain | .vowelE | .vowelAi => false

/-- The width of a text and what it begins with. -/
structure Extent where
  columns : Nat
  opening : Opening

/-- The extent of no text. -/
def Extent.empty : Extent :=
  { columns := 0, opening := .plain }

/-- The extent of a text with one more character in front.  The vowels AI, O and AU of
Kirat Rai can be written in parts: E and E, AA and E, AA and AI or O and E. -/
def Extent.cons (c : Char) (rest : Extent) : Extent :=
  match c.toNat, rest.opening with
  | 0x16d63, .vowelE | 0x16d63, .vowelAi | 0x16d69, .vowelE =>
    { rest with opening := .plain }
  | 0x16d67, .vowelE => { rest with opening := .vowelAi }
  | 0x16d67, _ | 0x16d68, .vowelE => { columns := 1 + rest.columns, opening := .vowelE }
  | 0x16d68, _ => { columns := 1 + rest.columns, opening := .vowelAi }
  | _, opening =>
    if joins c opening then { rest with opening := .plain }
    else { columns := Text.columns c + rest.columns, opening := .of c }

end Text

/-- The number of columns that a text takes. -/
def displayWidth (text : String) : Nat :=
  (text.toList.foldr Text.Extent.cons .empty).columns

end MessageTemplate
