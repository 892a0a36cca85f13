/-
The lexemes of a JSON text.

A text is split into lexemes from left to right.  A string, a number or a word that is
not well formed is still a lexeme: it carries its fault, and reading stops behind it.
So whoever reads the lexemes meets the faults of the text in their order, and a fault
that stands where nothing of its kind may stand is not looked into.

Numbers are read in a single pass.  Digits are taken into the significand as long as it
fits into sixty-four bits, and the significand and the power of ten are then combined
by one multiplication or division of double-precision numbers.  For long numerals the
result can differ from the nearest number.
-/
import MessageTemplate.Number.Binary64
import MessageTemplate.Text.Hexadecimal

namespace MessageTemplate

/-- Why a JSON text gives no values. -/
inductive JsonFault where
  /-- The text breaks the grammar. -/
  | malformed
  /-- The text is well formed so far and says something that was not asked for. -/
  | mismatch
  /-- The text ends too early. -/
  | truncated
deriving DecidableEq

/-- A word or a number. -/
inductive JsonScalar where
  | null
  | bool (b : Bool)
  | integer (n : Int)
  | float (x : Binary64)
deriving DecidableEq

/-- A lexeme of a JSON text. -/
inductive JsonLexeme where
  | openObject
  | closeObject
  | openList
  | closeList
  | comma
  | colon
  | string (text : Except JsonFault String)
  | scalar (value : Except JsonFault JsonScalar)
  /-- A character with which nothing starts. -/
  | junk

namespace JsonLexeme

/-- A reading: what was read and what is left, or a fault. -/
abbrev Reading (α : Type) : Type :=
  Except JsonFault (α × List Char)

/-- The fault of missing something in front of the rest of a text. -/
def missingBefore (rest : List Char) : JsonFault :=
  if rest.isEmpty then .truncated else .malformed

/-! ### Strings -/

/-- The number that four hexadecimal digits spell. -/
def hexNumber? (a b c d : Char) : Option Nat := do
  let digits ← [a, b, c, d].mapM hexDigit?
  return digits.foldl (fun n digit => 16 * n + digit) 0

/-- The fault of four characters that are no hexadecimal digits, or of fewer than four:
what counts is whether four bytes are left. -/
def hexFault (rest : List Char) : JsonFault :=
  if (String.ofList rest).utf8ByteSize < 4 then .truncated else .malformed

/-- The code point that a leading and a trailing surrogate make. -/
def pairCode (leading trailing : Nat) : Nat :=
  0x10000 + (leading - 0xd800) * 0x400 + (trailing - 0xdc00)

/-- The character that a backslash and a letter stand for. -/
def simpleEscape? (c : Char) : Option Char :=
  match c with
  | '"' => some '"'
  | '\\' => some '\\'
  | '/' => some '/'
  | 'b' => some '\x08'
  | 'f' => some '\x0c'
  | 'n' => some '\n'
  | 'r' => some '\r'
  | 't' => some '\t'
  | _ => none

/-- The rest of a string after its opening quote; `done` holds the characters read so
far, the last one first.  Surrogates must come in pairs. -/
def readString (done : List Char) : List Char → Reading String
  | [] => .error .truncated
  | '"' :: rest => .ok (String.ofList done.reverse, rest)
  | '\\' :: 'u' :: a :: b :: c :: d :: rest =>
    match hexNumber? a b c d with
    | none => .error (hexFault (a :: b :: c :: d :: rest))
    | some code =>
      if 0xdc00 ≤ code && code ≤ 0xdfff then .error .malformed
      else if code < 0xd800 || 0xdbff < code then readString (Char.ofNat code :: done) rest
      else
        match rest with
        | '\\' :: 'u' :: a :: b :: c :: d :: rest =>
          match hexNumber? a b c d with
          | none => .error (hexFault (a :: b :: c :: d :: rest))
          | some trailing =>
            if 0xdc00 ≤ trailing && trailing ≤ 0xdfff then
              readString (Char.ofNat (pairCode code trailing) :: done) rest
            else .error .malformed
        | '\\' :: 'u' :: few => .error (hexFault few)
        | ['\\'] => .error .truncated
        | other => .error (missingBefore other)
  | '\\' :: 'u' :: few => .error (hexFault few)
  | '\\' :: c :: rest =>
    match simpleEscape? c with
    | some e => readString (e :: done) rest
    | none => .error .malformed
  | ['\\'] => .error .truncated
  | c :: rest => if c.toNat < 0x20 then .error .malformed else readString (c :: done) rest

/-! ### Numbers -/

/-- Takes digits into a significand as long as it fits into sixty-four bits, and counts
the digits that are left over. -/
def absorb (significand : Nat) : List Char → Nat × Nat
  | [] => (significand, 0)
  | digit :: rest =>
    let next := 10 * significand + (digit.toNat - '0'.toNat)
    if next < UInt64.size then absorb next rest else (significand, rest.length + 1)

/-- The rank of a power of ten. -/
def powerRank (exponent : Nat) : Nat :=
  Decimal.nearestRank .double { significand := 1, exponent }

/-- The rank of a quotient. -/
def quotientRank (rank divisor : Nat) : Nat :=
  BinaryFormat.double.nearestRank (BinaryFormat.double.units rank)
    (BinaryFormat.double.units divisor)

/-- The rank of a product. -/
def productRank (rank factor : Nat) : Nat :=
  BinaryFormat.double.nearestRank
    (BinaryFormat.double.units rank * BinaryFormat.double.units factor)
    (BinaryFormat.double.one * BinaryFormat.double.one)

/-- Divides by a power of ten, in steps if the power has no double-precision number. -/
def scaleDown (rank exponent : Nat) : Nat :=
  if exponent ≤ 308 then quotientRank rank (powerRank exponent)
  else if rank = 0 then 0
  else scaleDown (quotientRank rank (powerRank 308)) (exponent - 308)
termination_by exponent

/-- The number with a significand and a power of ten; a number that is too large is
malformed. -/
def ofParts (negative : Bool) (significand : Nat) (exponent : Int) :
    Except JsonFault JsonScalar :=
  let rank := BinaryFormat.double.nearestRank significand 1
  match exponent with
  | .negSucc e => .ok (.float (Binary64.ofRank negative (scaleDown rank (e + 1))))
  | .ofNat e =>
    if rank = 0 then .ok (.float (Binary64.ofRank negative 0))
    else if 308 < e then .error .malformed
    else
      match Binary64.ofRank negative (productRank rank (powerRank e)) with
      | .finite negative rank => .ok (.float (.finite negative rank))
      | _ => .error .malformed

/-- The number that digits without a point or an exponent spell. -/
def ofDigits (negative : Bool) (significand leftOver : Nat) : Except JsonFault JsonScalar :=
  if leftOver != 0 then ofParts negative significand leftOver
  else if negative then
    if significand = 0 || Nat.pow 2 63 < significand then
      .ok (.float (Binary64.ofRatio true significand 1))
    else .ok (.integer (-significand))
  else if significand < Nat.pow 2 63 then .ok (.integer significand)
  else .ok (.float (Binary64.ofRatio false significand 1))

/-- The exponent after its letter. -/
def readExponent (text : List Char) : Reading Int :=
  let (negative, rest) := Numeral.splitSign text
  let digits := rest.takeWhile Char.isDigit
  let rest := rest.dropWhile Char.isDigit
  if digits.isEmpty then .error (missingBefore rest)
  else
    let value := Numeral.digitsValue digits
    .ok (if negative then -(value : Int) else value, rest)

/-- The number with the given parts, and the exponent that may follow. -/
def finishNumber (negative : Bool) (significand : Nat) (exponent : Int) (text : List Char)
    (plain : Except JsonFault JsonScalar) : Except JsonFault (JsonScalar × List Char) :=
  match text with
  | [] => plain.map (·, text)
  | c :: rest =>
    if c == 'e' || c == 'E' then do
      let (more, rest) ← readExponent rest
      let value ← ofParts negative significand (exponent + more)
      return (value, rest)
    else plain.map (·, text)

/-- The rest of a number after its sign. -/
def readNumber (negative : Bool) (text : List Char) : Reading JsonScalar :=
  let whole := text.takeWhile Char.isDigit
  let rest := text.dropWhile Char.isDigit
  let (significand, leftOver) := absorb 0 whole
  if whole.isEmpty then .error (missingBefore rest)
  else if whole.head? == some '0' && 1 < whole.length then .error .malformed
  else
    match rest with
    | '.' :: after =>
      let places := after.takeWhile Char.isDigit
      let rest := after.dropWhile Char.isDigit
      if places.isEmpty then .error (missingBefore rest)
      else
        let (significand, ignored) := absorb significand places
        let exponent : Int := leftOver - (places.length - ignored : Nat)
        finishNumber negative significand exponent rest
          (ofParts negative significand exponent)
    | _ =>
      finishNumber negative significand leftOver rest (ofDigits negative significand leftOver)

/-! ### Words and lexemes -/

/-- The rest of a word. -/
def readWord (value : JsonScalar) : List Char → List Char → Reading JsonScalar
  | [], rest => .ok (value, rest)
  | _, [] => .error .truncated
  | c :: expected, d :: rest => if c = d then readWord value expected rest else .error .malformed

/-- Whether a character may stand between lexemes. -/
def isSpace (c : Char) : Bool :=
  c == ' ' || c == '\n' || c == '\t' || c == '\r'

/-- The first lexeme of a text that does not start with a space, and the rest.  Nothing
is left behind a fault. -/
def first (c : Char) (rest : List Char) : JsonLexeme × List Char :=
  let ofReading {α : Type} (lexeme : Except JsonFault α → JsonLexeme)
      (reading : Reading α) : JsonLexeme × List Char :=
    match reading with
    | .ok (value, rest) => (lexeme (.ok value), rest)
    | .error fault => (lexeme (.error fault), [])
  if c == '{' then (.openObject, rest)
  else if c == '}' then (.closeObject, rest)
  else if c == '[' then (.openList, rest)
  else if c == ']' then (.closeList, rest)
  else if c == ',' then (.comma, rest)
  else if c == ':' then (.colon, rest)
  else if c == '"' then ofReading .string (readString [] rest)
  else if c == 'n' then ofReading .scalar (readWord .null ['u', 'l', 'l'] rest)
  else if c == 't' then ofReading .scalar (readWord (.bool true) ['r', 'u', 'e'] rest)
  else if c == 'f' then ofReading .scalar (readWord (.bool false) ['a', 'l', 's', 'e'] rest)
  else if c == '-' then ofReading .scalar (readNumber true rest)
  else if c.isDigit then ofReading .scalar (readNumber false (c :: rest))
  else (.junk, [])

/-- At most `count` lexemes of a text. -/
def firstLexemes : Nat → List Char → List JsonLexeme
  | 0, _ => []
  | count + 1, text =>
    match text.dropWhile isSpace with
    | [] => []
    | c :: rest =>
      let (lexeme, rest) := first c rest
      lexeme :: firstLexemes count rest

/-- The lexemes of a text; each takes at least one character. -/
def ofText (text : String) : List JsonLexeme :=
  firstLexemes text.length text.toList

end JsonLexeme

end MessageTemplate
