/-
Diagnostics: what can go wrong while a message is rendered.

Rendering never fails.  Every problem with the values, the template or the catalogs is
reported as a diagnostic, and the output holds a stand-in.
-/
import MessageTemplate.Json
import MessageTemplate.ParseError
import MessageTemplate.Text.Quoted

namespace MessageTemplate

/-- A problem met while rendering or translating. -/
inductive Diagnostic where
  /-- A placeholder or a branch reads a value that is not there. -/
  | missingValue (name : String)
  /-- A plural branch reads a value that stands for no finite number. -/
  | notNumeric (name value : String)
  /-- A branch has neither the key it needs nor `other`. -/
  | missingOption (name key : String)
  /-- A template does not parse. -/
  | invalidTemplate (template : String) (error : ParseError)
  /-- No catalog has the locale. -/
  | missingLocale (locale : String)
  /-- Some catalog has the locale, but none has the key in it. -/
  | missingKey (locale key : String)
deriving DecidableEq

/-- A coarse class of diagnostics. -/
inductive DiagnosticClass where
  | missingValue
  | missingOption
  | invalidTemplate
  | missingTranslation
deriving DecidableEq

/-- The name of a class. -/
def DiagnosticClass.name : DiagnosticClass → String
  | missingValue => "missing_value"
  | missingOption => "missing_option"
  | invalidTemplate => "invalid_template"
  | missingTranslation => "missing_translation"

namespace Diagnostic

/-- The class of a diagnostic. -/
def toClass : Diagnostic → DiagnosticClass
  | missingValue _ => .missingValue
  | notNumeric _ _ => .missingValue
  | missingOption _ _ => .missingOption
  | invalidTemplate _ _ => .invalidTemplate
  | missingLocale _ => .missingTranslation
  | missingKey _ _ => .missingTranslation

/-- The wording of a diagnostic. -/
def message : Diagnostic → String
  | missingValue name => "missing value for '" ++ name ++ "'"
  | notNumeric name value =>
    "value '" ++ value ++ "' for plural '" ++ name ++ "' is not a number"
  | missingOption name key =>
    "branch '" ++ name ++ "' has no option '" ++ key ++ "' and no 'other' option"
  | invalidTemplate template error =>
    "invalid template " ++ quotedText template ++ ": " ++ error.message
  | missingLocale locale => "did not find locale '" ++ locale ++ "' in any catalog"
  | missingKey locale key =>
    "did not find key '" ++ key ++ "' for locale '" ++ locale ++ "' in any catalog"

/-- A diagnostic as a JSON object; the first field names its kind. -/
def toJson : Diagnostic → Json
  | missingValue name => .object [("kind", .string "missing_value"), ("name", .string name)]
  | notNumeric name value =>
    .object [("kind", .string "not_numeric"), ("name", .string name), ("value", .string value)]
  | missingOption name key =>
    .object [("kind", .string "missing_option"), ("name", .string name), ("key", .string key)]
  | invalidTemplate template error =>
    .object [("kind", .string "invalid_template"), ("template", .string template),
      ("error", .string error.message)]
  | missingLocale locale =>
    .object [("kind", .string "missing_locale"), ("locale", .string locale)]
  | missingKey locale key =>
    .object [("kind", .string "missing_key"), ("locale", .string locale),
      ("key", .string key)]

end Diagnostic

end MessageTemplate
