/-
The parser: a pushdown machine over tokens.

The machine holds the sequence written so far at the top level and a stack of open
constructs.  There are three kinds of frames: a quoted run, a replacement (what stands
between the braces of `{name, operator, key{…} …}`, apart from option contents), and
the content of one option.  A token goes to the frame on top, or to the top-level
sequence when nothing is open.  Text and finished nodes are written to the innermost
content on the stack, whatever else is open above it.

Depth is limited by counting frames when one is opened, so a branch option costs two
frames (the branch and its content) and a quoted run one.  Parsing is a left fold of
`step` over the tokens that stops at the first fault, and the offset of a fault is the
number of characters of the tokens before it.
-/
import MessageTemplate.ParseError

namespace MessageTemplate

/-- One level of a sequence while it is being written. -/
structure SequenceBuilder where
  /-- The finished parts. -/
  parts : Array Node
  /-- Text that is not yet part of a literal. -/
  text : String
  /-- Whether a hash is a number field at this level. -/
  numberFields : Bool

namespace SequenceBuilder

/-- An empty level. -/
def empty (numberFields : Bool) : SequenceBuilder :=
  { parts := #[], text := "", numberFields }

/-- Adds text; it joins the text just before it. -/
def pushText (builder : SequenceBuilder) (text : String) : SequenceBuilder :=
  { builder with text := builder.text ++ text }

/-- Makes a literal of the pending text, if there is any. -/
def flush (builder : SequenceBuilder) : SequenceBuilder :=
  if builder.text.isEmpty then builder
  else { builder with parts := builder.parts.push (.literal builder.text), text := "" }

/-- Adds a finished node. -/
def pushNode (builder : SequenceBuilder) (node : Node) : SequenceBuilder :=
  let flushed := builder.flush
  { flushed with parts := flushed.parts.push node }

/-- Adds a hash: a number field where there is a number, else text. -/
def pushHash (builder : SequenceBuilder) : SequenceBuilder :=
  if builder.numberFields then builder.pushNode .numberField
  else builder.pushText Token.hash.source

/-- The node for all that was written. -/
def finish (builder : SequenceBuilder) : Node :=
  Node.ofParts builder.flush.parts.toList

end SequenceBuilder

/-- How far a replacement has been read. -/
inductive ReplacementStage where
  | variableName
  | afterVariableName (name : String)
  | operatorName (name : String)
  | afterOperatorName (name : String) (kind : BranchKind)
  /-- Among the options, perhaps after a key whose content has not opened yet. -/
  | options (branch : Branch Node) (pendingKey : Option String)

/-- What a replacement waits for at a stage. -/
def ReplacementStage.state : ReplacementStage → ParserState
  | variableName => .variableName
  | afterVariableName _ => .afterVariableName
  | operatorName _ => .operatorName
  | afterOperatorName _ _ => .afterOperatorName
  | options _ none => .optionKey
  | options _ (some _) => .afterOptionKey

/-- A construct that is open. -/
inductive Frame where
  /-- Inside quotes; `consumed` tells whether a token came after the opening quote. -/
  | quoted (consumed : Bool)
  /-- Inside braces, outside any option content. -/
  | replacement (stage : ReplacementStage)
  /-- Inside the content of the option with this key. -/
  | content (key : String) (sequence : SequenceBuilder)

/-- Changes the sequence of the innermost content, if there is a content. -/
def Frame.modifyInnermost (f : SequenceBuilder → SequenceBuilder) :
    List Frame → Option (List Frame)
  | [] => none
  | .content key sequence :: below => some (.content key (f sequence) :: below)
  | frame :: below => (modifyInnermost f below).map (frame :: ·)

/-- The machine between two tokens. -/
structure Parser where
  /-- The top-level sequence. -/
  root : SequenceBuilder
  /-- The open constructs, the innermost first. -/
  stack : List Frame

namespace Parser

/-- The machine before the first token. -/
def start : Parser :=
  { root := SequenceBuilder.empty false, stack := [] }

/-- Changes the sequence to which text and nodes are written. -/
def modifySequence (parser : Parser) (f : SequenceBuilder → SequenceBuilder) : Parser :=
  match Frame.modifyInnermost f parser.stack with
  | some stack => { parser with stack }
  | none => { parser with root := f parser.root }

/-- Puts a frame on the stack. -/
def push (parser : Parser) (frame : Frame) : Parser :=
  { parser with stack := frame :: parser.stack }

/-- Opens a construct, within the limit on open frames. -/
def openFrame (maxDepth : Nat) (parser : Parser) (frame : Frame) : Except ParseFault Parser :=
  if maxDepth ≤ parser.stack.length then .error (.nestingTooDeep maxDepth)
  else .ok (parser.push frame)

/-- Closes the option content on top of the stack and records it in its branch. -/
def closeContent (parser : Parser) : Except ParseFault Parser :=
  match parser.stack with
  | .content key sequence :: .replacement (.options branch pendingKey) :: below =>
    let filled := branch.insert key sequence.finish
    .ok { parser with stack := .replacement (.options filled pendingKey) :: below }
  | _ => .error .unmatchedClosingBrace

/-- A token at the top level or inside option content. -/
def stepSequence (maxDepth : Nat) (parser : Parser) (token : Token) :
    Except ParseFault Parser :=
  match token with
  | .leftBrace => parser.openFrame maxDepth (.replacement .variableName)
  | .quote => parser.openFrame maxDepth (.quoted false)
  | .rightBrace => parser.closeContent
  | .hash => .ok (parser.modifySequence SequenceBuilder.pushHash)
  | .comma | .spaces _ | .text _ => .ok (parser.modifySequence (·.pushText token.source))

/-- A token inside quotes.  The frame has been taken off the stack: a closing quote
leaves it off, and a quote right after the opening one stands for itself. -/
def stepQuoted (parser : Parser) (consumed : Bool) (token : Token) : Parser :=
  match token, consumed with
  | .quote, true => parser
  | .quote, false => parser.modifySequence (·.pushText token.source)
  | _, _ => (parser.modifySequence (·.pushText token.source)).push (.quoted true)

/-- A token inside braces.  The frame has been taken off the stack and goes back with
its next stage, unless the token closes the replacement. -/
def stepReplacement (maxDepth : Nat) (parser : Parser) (stage : ReplacementStage)
    (token : Token) : Except ParseFault Parser :=
  match stage, token with
  | stage, .spaces _ => .ok (parser.push (.replacement stage))
  | .variableName, .text name => .ok (parser.push (.replacement (.afterVariableName name)))
  | .afterVariableName name, .rightBrace =>
    .ok (parser.modifySequence (·.pushNode (.placeholder name)))
  | .afterVariableName name, .comma =>
    .ok (parser.push (.replacement (.operatorName name)))
  | .operatorName name, .text operator =>
    match BranchKind.ofOperator? operator with
    | some kind => .ok (parser.push (.replacement (.afterOperatorName name kind)))
    | none => .error (.invalidOperator operator)
  | .afterOperatorName name kind, .comma =>
    .ok (parser.push (.replacement (.options (Branch.empty name kind) none)))
  | .options branch none, .text key =>
    .ok (parser.push (.replacement (.options branch (some key))))
  | .options branch (some key), .leftBrace =>
    let waiting := parser.push (.replacement (.options branch none))
    waiting.openFrame maxDepth (.content key (SequenceBuilder.empty (branch.kind == .plural)))
  | .options branch none, .rightBrace =>
    if branch.options.isEmpty then .error (.emptyBranch branch.name)
    else .ok (parser.modifySequence (·.pushNode (.branch branch)))
  | stage, token => .error (.unexpectedToken token stage.state)

/-- Feeds one token to the machine. -/
def step (maxDepth : Nat) (parser : Parser) (token : Token) : Except ParseFault Parser :=
  match parser.stack with
  | .quoted consumed :: below =>
    .ok ({ parser with stack := below }.stepQuoted consumed token)
  | .replacement stage :: below =>
    { parser with stack := below }.stepReplacement maxDepth stage token
  | _ => parser.stepSequence maxDepth token

/-- The tree at the end of the input, if nothing is open. -/
def finish (parser : Parser) : Except ParseFault Node :=
  match parser.stack with
  | [] => .ok parser.root.finish
  | .quoted _ :: _ => .error .unclosedQuote
  | _ => .error .unclosedBrace

/-- Feeds the rest of the tokens to the machine; `offset` and `index` tell the place of
the first of them. -/
def run (maxDepth : Nat) (parser : Parser) (offset index : Nat) :
    List Token → Except ParseError Node
  | [] =>
    match parser.finish with
    | .ok node => .ok node
    | .error fault => .error { fault, offset, tokenIndex := index }
  | token :: rest =>
    match parser.step maxDepth token with
    | .ok next => next.run maxDepth (offset + token.length) (index + 1) rest
    | .error fault => .error { fault, offset, tokenIndex := index }

end Parser

/-- How many frames may be open at once unless the caller says otherwise. -/
def defaultMaxDepth : Nat :=
  64

/-- Parses tokens with at most `maxDepth` frames open at once. -/
def parseTokens (maxDepth : Nat) (tokens : List Token) : Except ParseError Node :=
  Parser.start.run maxDepth 0 0 tokens

/-- Parses a template with the default limit on depth. -/
def parse (template : String) : Except ParseError Node :=
  parseTokens defaultMaxDepth (lex template)

end MessageTemplate
