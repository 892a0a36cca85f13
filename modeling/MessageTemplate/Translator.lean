/-
Translators: look-up of messages in several catalogs.

A translator has a current locale and catalogs in order.  The first catalog with an
entry for the locale and the key wins.  When none has one, the reason is reported once:
either no catalog knows the locale, or some do and lack the key.
-/
import MessageTemplate.Catalog

namespace MessageTemplate

/-- A current locale and the catalogs to search, the most important first. -/
structure Translator where
  locale : String
  catalogs : List Catalog

namespace Translator

/-- A translator for a locale without catalogs. -/
def ofLocale (locale : String) : Translator :=
  { locale, catalogs := [] }

/-- The translator that one starts with. -/
def initial : Translator :=
  ofLocale "en"

/-- Changes the current locale. -/
def setLocale (translator : Translator) (locale : String) : Translator :=
  { translator with locale }

/-- Adds a catalog that is searched after all others. -/
def pushCatalog (translator : Translator) (catalog : Catalog) : Translator :=
  { translator with catalogs := translator.catalogs ++ [catalog] }

/-- The entry for a key in the current locale. -/
def lookup? (translator : Translator) (key : String) : Option Entry :=
  translator.catalogs.findSome? (·.get? translator.locale key)

/-- Why there is no entry for a key. -/
def missing (translator : Translator) (key : String) : Diagnostic :=
  if translator.catalogs.any (·.hasLocale translator.locale) then
    .missingKey translator.locale key
  else .missingLocale translator.locale

/-- What stands in the output for a message that is not there. -/
def marker (translator : Translator) (key : String) : String :=
  "\x7b\x7b" ++ translator.locale ++ ":" ++ key ++ "\x7d\x7d"

/-- Renders the message for a key in the current locale. -/
def translate {σ : Type} (translator : Translator) (sink : Sink σ) (values : Values)
    (key : String) : StateM σ String :=
  match translator.lookup? key with
  | some entry => entry.render sink values
  | none => do
    sink.warn (translator.missing key)
    return translator.marker key

end Translator

end MessageTemplate
