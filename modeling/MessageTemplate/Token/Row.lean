/-
The token listing: one row for each token, with the place where the token starts.

Offsets count characters.  The row of a token starts where the sources of the tokens
before it end, which is what ties a row to the offset of a parse error.
-/
import MessageTemplate.Token

namespace MessageTemplate

namespace Token

/-- The name of a kind of token in a listing. -/
def kindName : Token → String
  | leftBrace => "left_brace"
  | rightBrace => "right_brace"
  | comma => "comma"
  | hash => "hashtag"
  | quote => "escape"
  | spaces _ => "whitespace"
  | text _ => "text"

/-- One row of a token listing. -/
structure Row where
  /-- The position of the token in the list. -/
  index : Nat
  /-- The number of characters before the token. -/
  offset : Nat
  kind : String
  text : String
deriving DecidableEq

/-- The rows of tokens of which the first has the given index and offset. -/
def rowsFrom (index offset : Nat) : List Token → List Row
  | [] => []
  | token :: rest =>
    { index, offset, kind := token.kindName, text := token.source }
      :: rowsFrom (index + 1) (offset + token.length) rest

/-- The listing of a whole token list. -/
def rows (tokens : List Token) : List Row :=
  rowsFrom 0 0 tokens

end Token

end MessageTemplate
