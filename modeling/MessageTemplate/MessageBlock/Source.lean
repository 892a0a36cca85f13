/-
The source of a block of messages.

A block is written with Rust lexemes: a locale, braces, and between them messages of the
form `key = "template";`.  Locales and keys are identifiers.  Reading stops at the first
fault, and a template is parsed as soon as its message is complete.
-/
import MessageTemplate.MessageBlock
import MessageTemplate.Source.Keyword
import MessageTemplate.Source.Scan

namespace MessageTemplate

open Source

/-- A part of a block that has to come next. -/
inductive BlockPart where
  | identifier
  | braces
  | equalsSign
  | string
  | semicolon
deriving DecidableEq

namespace BlockPart

/-- How a fault names a part. -/
def describe : BlockPart → String
  | identifier => "identifier"
  | braces => "curly braces"
  | equalsSign => "`=`"
  | string => "string literal"
  | semicolon => "`;`"

/-- Whether a part is a character of an operator. -/
def isSign : BlockPart → Bool
  | equalsSign | semicolon => true
  | identifier | braces | string => false

end BlockPart

/-- Why source is no block. -/
inductive BlockFault where
  /-- The source cannot be scanned. -/
  | notLexemes
  /-- Something else stands where a part has to come, or nothing at all. -/
  | missing (part : BlockPart) (atEnd : Bool)
  /-- A keyword in place of an identifier. -/
  | keyword (word : String)
  /-- A template that does not parse. -/
  | template (error : ParseError)
deriving DecidableEq

/-- The wording of a fault.  The end is only told where no sign was expected. -/
def BlockFault.message : BlockFault → String
  | notLexemes => "cannot parse string into token stream"
  | missing part atEnd =>
    (if atEnd && !part.isSign then "unexpected end of input, " else "") ++ "expected " ++
      part.describe
  | keyword word => "expected identifier, found keyword `" ++ word ++ "`"
  | template error => "invalid template: " ++ error.message

namespace MessageBlock

/-- Whether the lexemes inside some delimiters are at their end. -/
def isEnd : List Lexeme → Bool
  | [] => true
  | .closing _ :: _ => true
  | _ => false

/-- The fault of a part that is missing in front of some lexemes. -/
def missing (part : BlockPart) (rest : List Lexeme) : BlockFault :=
  .missing part (isEnd rest)

/-- The fault of lexemes that should start with an identifier and go on as `next`
wants. -/
def identifierFault (next : List Lexeme → BlockFault) : List Lexeme → BlockFault
  | .word word :: rest => if isKeyword word then .keyword word else next rest
  | rest => missing .identifier rest

/-- The fault of lexemes that do not start with a locale and an opening brace. -/
def localeFault (lexemes : List Lexeme) : BlockFault :=
  identifierFault (missing .braces) lexemes

/-- The fault after a key. -/
def definitionFault : List Lexeme → BlockFault
  | .punct '=' :: .string _ :: rest => missing .semicolon rest
  | .punct '=' :: rest => missing .string rest
  | rest => missing .equalsSign rest

/-- The fault of lexemes that do not start with a message. -/
def messageFault (lexemes : List Lexeme) : BlockFault :=
  identifierFault definitionFault lexemes

mutual

/-- Reads locales with their messages. -/
def readLocales : List Lexeme → Except BlockFault (List LocaleBlock)
  | [] => .ok []
  | .word locale :: .opening .brace :: rest =>
    if isKeyword locale then .error (.keyword locale)
    else
      match readMessages rest with
      | .ok (messages, locales) => .ok ({ locale, messages } :: locales)
      | .error fault => .error fault
  | lexemes => .error (localeFault lexemes)

/-- Reads the rest of the messages of a locale, and then the other locales. -/
def readMessages : List Lexeme → Except BlockFault (List BlockMessage × List LocaleBlock)
  | .closing _ :: rest =>
    match readLocales rest with
    | .ok locales => .ok ([], locales)
    | .error fault => .error fault
  | .word key :: .punct '=' :: .string template :: .punct ';' :: rest =>
    if isKeyword key then .error (.keyword key)
    else
      match parse template with
      | .error error => .error (.template error)
      | .ok content =>
        match readMessages rest with
        | .ok (messages, locales) => .ok ({ key, content } :: messages, locales)
        | .error fault => .error fault
  | lexemes => .error (messageFault lexemes)

end

/-- Reads a block. -/
def ofSource (source : String) : Except BlockFault MessageBlock :=
  match scan? source with
  | some lexemes => (readLocales lexemes).map fun locales => { locales }
  | none => .error .notLexemes

end MessageBlock

end MessageTemplate
