/-
Values from JSON texts.

A text gives values if it is an object whose fields are numbers, texts and truth values.
Integers that fit into sixty-four bits stay integers, all other numbers become floating
point, and of fields with one name the last one counts.

The lexemes go through a machine that keeps the open lists and objects.  Lists and
objects inside the object are followed to their end before they are refused, so a text
that breaks the grammar within them is malformed and not merely a mismatch.
-/
import MessageTemplate.Json.Lexeme
import MessageTemplate.Value

namespace MessageTemplate

namespace JsonValues

/-- A list or an object that is open. -/
inductive Container where
  | list
  | object
deriving DecidableEq

/-- What may come next. -/
inductive Expected where
  /-- The object with the values. -/
  | document
  | value
  /-- An item or the end of a list. -/
  | itemOrEnd
  | commaOrEnd
  | key
  /-- A key or the end of an object. -/
  | keyOrEnd
  | colon
  /-- The end of the text. -/
  | nothing
deriving DecidableEq

/-- The machine between two lexemes. -/
structure State where
  /-- The open lists and objects, the innermost first. -/
  containers : List Container
  expected : Expected
  /-- The last key read. -/
  key : String
  values : Values

/-- The machine before the first lexeme. -/
def start : State :=
  { containers := [], expected := .document, key := "", values := ∅ }

/-- How many lists and objects may be open at once. -/
def maxDepth : Nat :=
  127

/-- The value that a word or a number gives. -/
def ofScalar : JsonScalar → Option Value
  | .null => none
  | .bool b => some (.bool b)
  | .integer n => some (Value.ofInt n)
  | .float x => some (.float x)

/-- Opens a list or an object. -/
def openContainer (state : State) (container : Container) : Except JsonFault State :=
  if maxDepth ≤ state.containers.length then .error .malformed
  else
    .ok { state with
      containers := container :: state.containers
      expected := match container with
        | .list => .itemOrEnd
        | .object => .keyOrEnd }

/-- Closes the innermost list or object.  The outermost is the object with the values; a
list or an object directly inside it is not a value. -/
def closeContainer (state : State) : Except JsonFault State :=
  match state.containers with
  | [] | [_] => .ok { state with containers := [], expected := .nothing }
  | [_, _] => .error .mismatch
  | _ :: containers => .ok { state with containers, expected := .commaOrEnd }

/-- Takes a word, a number or a string as the value of a field or as an item. -/
def takeValue (state : State) (value : Option Value) : Except JsonFault State :=
  match state.containers, value with
  | [_], none => .error .mismatch
  | [_], some value =>
    .ok { state with
      expected := .commaOrEnd
      values := state.values.insert state.key value }
  | _, _ => .ok { state with expected := .commaOrEnd }

/-- A lexeme where a value is expected. -/
def stepValue (state : State) : JsonLexeme → Except JsonFault State
  | .openObject => openContainer state .object
  | .openList => openContainer state .list
  | .string text => do takeValue state (some (.string (← text)))
  | .scalar value => do takeValue state (ofScalar (← value))
  | _ => .error .malformed

/-- A lexeme where the whole document is expected. -/
def stepDocument (state : State) : JsonLexeme → Except JsonFault State
  | .openObject => openContainer state .object
  | .openList => .error .mismatch
  | .string text => do let _ ← text; .error .mismatch
  | .scalar value => do let _ ← value; .error .mismatch
  | _ => .error .malformed

/-- A lexeme where a key is expected. -/
def stepKey (state : State) : JsonLexeme → Except JsonFault State
  | .string text => do return { state with key := ← text, expected := .colon }
  | _ => .error .malformed

/-- Feeds a lexeme to the machine. -/
def step (state : State) (lexeme : JsonLexeme) : Except JsonFault State :=
  match state.expected, state.containers.head?, lexeme with
  | .document, _, _ => stepDocument state lexeme
  | .value, _, _ => stepValue state lexeme
  | .itemOrEnd, _, .closeList => closeContainer state
  | .itemOrEnd, _, _ => stepValue state lexeme
  | .commaOrEnd, some .list, .comma => .ok { state with expected := .value }
  | .commaOrEnd, some .list, .closeList => closeContainer state
  | .commaOrEnd, some .object, .comma => .ok { state with expected := .key }
  | .commaOrEnd, some .object, .closeObject => closeContainer state
  | .keyOrEnd, _, .closeObject => closeContainer state
  | .keyOrEnd, _, _ => stepKey state lexeme
  | .key, _, _ => stepKey state lexeme
  | .colon, _, .colon => .ok { state with expected := .value }
  | _, _, _ => .error .malformed

end JsonValues

/-- Reads values from a JSON text. -/
def Values.ofJson (text : String) : Except JsonFault Values := do
  let state ← (JsonLexeme.ofText text).foldlM JsonValues.step JsonValues.start
  if state.expected = .nothing then return state.values else .error .truncated

end MessageTemplate
