/-
Number literals of Rust source: where they end.

Only the extent of a number matters here.  A number may carry a suffix, which is an
identifier right behind it; a character that goes on an identifier and does not start
one may not follow a number.
-/
import MessageTemplate.Text.Hexadecimal
import MessageTemplate.Text.Identifier

namespace MessageTemplate

namespace Source

/-- Whether a character is an underscore. -/
def isUnderscore (c : Char) : Bool :=
  c == '_'

/-- Whether a character goes on a decimal numeral. -/
def isPlace (c : Char) : Bool :=
  c.isDigit || isUnderscore c

/-- The text after the suffix that a literal may have. -/
def afterSuffix (text : List Char) : List Char :=
  match text with
  | c :: _ => if isIdentifierStart c then text.dropWhile isIdentifierContinue else text
  | [] => []

/-- The text after a number's suffix, unless the number runs into what follows. -/
def afterNumber? (text : List Char) : Option (List Char) :=
  match afterSuffix text with
  | c :: rest => if isIdentifierContinue c then none else some (c :: rest)
  | [] => some []

/-- The text after the digits of an exponent and the sign before them. -/
def afterExponent? (text : List Char) : Option (List Char) :=
  let unsigned :=
    match text.dropWhile isUnderscore with
    | c :: rest => if c == '+' || c == '-' then rest.dropWhile isUnderscore else c :: rest
    | [] => []
  match unsigned with
  | c :: rest => if c.isDigit then some (rest.dropWhile isPlace) else none
  | [] => none

/-- Whether a character starts an exponent. -/
def isExponentMark (c : Char) : Bool :=
  c == 'e' || c == 'E'

/-- The text after the digits of a number with a point or an exponent.  A letter `e`
behind a point is a suffix if no exponent can be made of it. -/
def afterFloatDigits? (text : List Char) : Option (List Char) :=
  match text.dropWhile isPlace with
  | '.' :: places =>
    let follows (p : Char → Bool) : Bool := places.head?.any p
    if follows (· == '.') || follows isIdentifierStart then none
    else
      match places.dropWhile isPlace with
      | c :: rest =>
        if isExponentMark c then some ((afterExponent? rest).getD (c :: rest))
        else some (c :: rest)
      | [] => some []
  | c :: rest => if isExponentMark c then afterExponent? rest else none
  | [] => none

/-- The base of a number that starts with a digit, and its digits with what follows. -/
def splitBase : List Char → Nat × List Char
  | '0' :: 'x' :: rest => (16, rest)
  | '0' :: 'o' :: rest => (8, rest)
  | '0' :: 'b' :: rest => (2, rest)
  | text => (10, text)

/-- Whether a character goes on an integer in some base.  Every decimal digit does, so
that one too large for the base is not left behind. -/
def isDigitIn (base : Nat) (c : Char) : Bool :=
  isPlace c || (base == 16 && (hexDigit? c).isSome)

/-- The text after the digits of an integer. -/
def afterIntegerDigits? (text : List Char) : Option (List Char) :=
  let (base, text) := splitBase text
  let digits := (text.takeWhile (isDigitIn base)).filterMap hexDigit?
  if digits.isEmpty || digits.any (base ≤ ·) then none
  else some (text.dropWhile (isDigitIn base))

/-- The text after a number that starts with a digit. -/
def afterNumberLiteral? (text : List Char) : Option (List Char) :=
  ((afterFloatDigits? text).bind afterNumber?).or
    ((afterIntegerDigits? text).bind afterNumber?)

end Source

end MessageTemplate
