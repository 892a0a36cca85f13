/-
Catalogs: messages by locale and key.

A catalog is a map of maps.  Nothing is ever removed and a locale comes into being
together with its first message, so a locale is there exactly when some message is.
Each insertion gives back the entry that it replaced.
-/
import MessageTemplate.Compiled.Run
import MessageTemplate.Render

namespace MessageTemplate

/-- A compiled message: a function of the values and the sink. -/
structure CompiledFunction where
  /-- The parameter for the values. -/
  values : String
  /-- The parameter for the sink. -/
  sink : String
  body : Code

namespace CompiledFunction

/-- The parameters of the function for a template: underscored if the template reads no
value, since its body then mentions neither. -/
def ofNode (node : Node) : CompiledFunction :=
  { values := if node.valueNames.isEmpty then "_values" else "values"
    sink := if node.valueNames.isEmpty then "_sink" else "sink"
    body := node.compile CodeNames.standard }

/-- Calls the function.  A body with unbound identifiers would have no meaning; it is
taken to give no text. -/
def call {σ : Type} (function : CompiledFunction) (sink : Sink σ) (values : Values) :
    StateM σ String :=
  (function.body.run? sink values (Scope.ofParameters function.values function.sink)).getD
    (pure "")

end CompiledFunction

/-- A message in a catalog. -/
inductive Entry where
  /-- Text without anything to fill in. -/
  | text (text : String)
  | compiled (function : CompiledFunction)
  /-- A parsed template, which is interpreted. -/
  | template (node : Node)

namespace Entry

/-- Renders a message. -/
def render {σ : Type} (entry : Entry) (sink : Sink σ) (values : Values) : StateM σ String :=
  match entry with
  | text t => pure t
  | compiled function => function.call sink values
  | template node => node.render sink values

/-- How a parsed template is stored: as text if it is nothing but text. -/
def ofNode (node : Node) : Entry :=
  match node.literalText with
  | some t => text t
  | none => template node

end Entry

/-- A template that could not be loaded into a catalog. -/
structure LoadError where
  locale : String
  key : String
  cause : ParseError
deriving DecidableEq

/-- The wording of a load error. -/
def LoadError.message (error : LoadError) : String :=
  "invalid template for '" ++ error.locale ++ ":" ++ error.key ++ "': " ++
    error.cause.message

/-- Messages by locale and key. -/
structure Catalog where
  entries : Std.TreeMap String (Std.TreeMap String Entry)

namespace Catalog

/-- No messages. -/
def empty : Catalog :=
  { entries := ∅ }

/-- The entry for a locale and a key. -/
def get? (catalog : Catalog) (locale key : String) : Option Entry :=
  catalog.entries[locale]?.bind (·[key]?)

/-- Inserts an entry and gives back the one it replaced. -/
def insert (catalog : Catalog) (locale key : String) (entry : Entry) :
    Option Entry × Catalog :=
  let messages := catalog.entries.getD locale ∅
  (messages[key]?, { entries := catalog.entries.insert locale (messages.insert key entry) })

/-- Inserts text without anything to fill in. -/
def insertText (catalog : Catalog) (locale key text : String) : Option Entry × Catalog :=
  catalog.insert locale key (.text text)

/-- Loads a template: parses it, and inserts it if it parses.  Beside what this gives back stands
the catalog as it is then, in either case. -/
def loadTemplate (catalog : Catalog) (locale key template : String) :
    Except LoadError (Option Entry) × Catalog :=
  match parse template with
  | .error cause => (.error { locale, key, cause }, catalog)
  | .ok node =>
    let (replaced, next) := catalog.insert locale key (Entry.ofNode node)
    (.ok replaced, next)

/-- Loads a template where the catalog is needed only if it parses. -/
def insertTemplate (catalog : Catalog) (locale key template : String) :
    Except LoadError (Option Entry × Catalog) :=
  let (result, next) := catalog.loadTemplate locale key template
  result.map (·, next)

/-- Whether there is any entry for a locale. -/
def hasLocale (catalog : Catalog) (locale : String) : Bool :=
  catalog.entries.contains locale

/-- The locales in increasing order. -/
def locales (catalog : Catalog) : List String :=
  catalog.entries.keys

/-- The keys of a locale in increasing order. -/
def keys (catalog : Catalog) (locale : String) : List String :=
  (catalog.entries.getD locale ∅).keys

end Catalog

end MessageTemplate
