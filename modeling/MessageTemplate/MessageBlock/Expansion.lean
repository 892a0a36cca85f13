/-
The code of a block of messages.

For each locale there is a module with a function for each message, and after the
modules comes a function that gives the catalog of the block.  Modules and functions
have the names that the block gives, so a name that is written raw has no code.
-/
import MessageTemplate.Compiled.Lexemes
import MessageTemplate.MessageBlock.Source

namespace MessageTemplate

open Source

namespace MessageBlock

/-- An item of the library that code refers to. -/
def libraryItem (names : List String) : List Lexeme :=
  path ("icumsg" :: names)

/-- A function: its documentation, its name, its parameters, what it returns, and its
body. -/
def functionLexemes (text name : String) (parameters result body : List Lexeme) :
    List Lexeme :=
  documentation text ++ [.word "pub", .word "fn", .word name] ++
    group .parenthesis parameters ++ [.punct '-', .punct '>'] ++ result ++ group .brace body

/-- The function for a message. -/
def messageLexemes (locale : String) (message : BlockMessage) : List Lexeme :=
  let function := CompiledFunction.ofNode message.content
  functionLexemes ("Renders the \"" ++ message.key ++ "\" message for \"" ++ locale ++ "\".")
    message.key
    ([.word function.values, .punct ':', .punct '&'] ++ libraryItem ["Values"] ++
      [.punct ',', .word function.sink, .punct ':', .punct '&', .word "mut", .word "dyn"] ++
      libraryItem ["DiagnosticSink"] ++ [.punct ','])
    (path ["std", "string", "String"])
    (function.body.lexemes (libraryItem ["runtime"]))

/-- The module for a locale. -/
def localeLexemes (block : LocaleBlock) : List Lexeme :=
  documentation ("Messages for the \"" ++ block.locale ++ "\" locale.") ++
    [.word "pub", .word "mod", .word block.locale] ++
    group .brace (block.messages.flatMap (messageLexemes block.locale))

/-- A new catalog. -/
def newCatalog : List Lexeme :=
  libraryItem ["Catalog", "new"] ++ group .parenthesis []

/-- The entry for a message. -/
def entryLexemes (locale : String) (message : BlockMessage) : List Lexeme :=
  match message.content.literalText with
  | some text =>
    libraryItem ["TranslationEntry", "Text"] ++ group .parenthesis
      (path ["std", "borrow", "Cow", "Borrowed"] ++ group .parenthesis [.string text])
  | none =>
    libraryItem ["TranslationEntry", "Function"] ++ group .parenthesis
      (.word locale :: path [message.key])

/-- The insertion of a message into the catalog. -/
def insertionLexemes (locale : String) (message : BlockMessage) : List Lexeme :=
  [.word "catalog", .punct '.', .word "insert"] ++ group .parenthesis
    (separated [[.string locale], [.string message.key], entryLexemes locale message]) ++
    [.punct ';']

/-- The insertions for a locale. -/
def localeInsertions (block : LocaleBlock) : List Lexeme :=
  block.messages.flatMap (insertionLexemes block.locale)

/-- The body of the function that gives the catalog. -/
def catalogBody (block : MessageBlock) : List Lexeme :=
  if block.locales.all (·.messages.isEmpty) then newCatalog
  else
    [.word "let", .word "mut", .word "catalog", .punct '='] ++ newCatalog ++ [.punct ';'] ++
      block.locales.flatMap localeInsertions ++ [.word "catalog"]

/-- The code of a block. -/
def lexemes (block : MessageBlock) : List Lexeme :=
  block.locales.flatMap localeLexemes ++
    functionLexemes " Returns a catalog with every message defined in this block." "catalog"
      [] (libraryItem ["Catalog"]) block.catalogBody

end MessageBlock

/-- Why the source of a block has no code. -/
inductive BlockError where
  | unreadable (fault : BlockFault)
  | conflicting (conflicts : List BlockConflict)
  /-- A raw name. -/
  | rawName (name : String)
deriving DecidableEq

/-- The block that source describes, and the code for it. -/
def MessageBlock.compile (source : String) :
    Except BlockError (MessageBlock × List Lexeme) :=
  match MessageBlock.ofSource source with
  | .error fault => .error (.unreadable fault)
  | .ok block =>
    if block.conflicts.isEmpty then
      match block.names.find? isRaw with
      | some name => .error (.rawName name)
      | none => .ok (block, block.lexemes)
    else .error (.conflicting block.conflicts)

end MessageTemplate
