/-
Blocks of messages that are compiled together.

A block lists locales, and under each locale messages by their keys.  Each locale may
have only one list and each key only one message in it.  Under that condition no message
of the block replaces another one in the catalog of the block.
-/
import MessageTemplate.Catalog

namespace MessageTemplate

/-- A message and its key. -/
structure BlockMessage where
  key : String
  content : Node

/-- How a compiled message is stored: as text if it is nothing but text. -/
def BlockMessage.entry (message : BlockMessage) : Entry :=
  match message.content.literalText with
  | some text => .text text
  | none => .compiled (CompiledFunction.ofNode message.content)

/-- The messages of a locale. -/
structure LocaleBlock where
  locale : String
  messages : List BlockMessage

namespace LocaleBlock

/-- The keys of the messages. -/
def keys (block : LocaleBlock) : List String :=
  block.messages.map (·.key)

/-- What is inserted into a catalog for a locale. -/
def insertions (block : LocaleBlock) : List (String × String × Entry) :=
  block.messages.map fun message => (block.locale, message.key, message.entry)

end LocaleBlock

/-- Two lists for one locale, or two messages for one key. -/
inductive BlockConflict where
  | repeatedLocale (locale : String)
  | repeatedMessage (key locale : String)
deriving DecidableEq

/-- The wording of a conflict. -/
def BlockConflict.message : BlockConflict → String
  | repeatedLocale locale => "duplicate locale '" ++ locale ++ "'"
  | repeatedMessage key locale => "duplicate message '" ++ key ++ "' in locale '" ++ locale ++ "'"

/-- The names that occurred earlier, among them or in `seen`. -/
def repeatsAfter (seen : List String) : List String → List String
  | [] => []
  | name :: rest =>
    if seen.contains name then name :: repeatsAfter seen rest
    else repeatsAfter (name :: seen) rest

/-- The conflicts of lists of messages: list by list, first that of its locale. -/
def conflictsAfter (seen : List String) : List LocaleBlock → List BlockConflict
  | [] => []
  | block :: rest =>
    (if seen.contains block.locale then [.repeatedLocale block.locale] else []) ++
      (repeatsAfter [] block.keys).map (.repeatedMessage · block.locale) ++
      conflictsAfter (block.locale :: seen) rest

/-- Messages by locale and key, in the order in which they were written. -/
structure MessageBlock where
  locales : List LocaleBlock

namespace MessageBlock

/-- All conflicts in a block. -/
def conflicts (block : MessageBlock) : List BlockConflict :=
  conflictsAfter [] block.locales

/-- The names that a block gives to locales and messages. -/
def names (block : MessageBlock) : List String :=
  block.locales.flatMap fun messages => messages.locale :: messages.keys

/-- What is inserted into the catalog of a block, in order. -/
def insertions (block : MessageBlock) : List (String × String × Entry) :=
  block.locales.flatMap LocaleBlock.insertions

/-- The catalog of a block. -/
def catalog (block : MessageBlock) : Catalog :=
  block.insertions.foldl
    (fun catalog (locale, key, entry) => (catalog.insert locale key entry).2) Catalog.empty

end MessageBlock

end MessageTemplate
