/-
The source lines of compiled templates.

An expression takes one line or several.  What stands before and after it on its first
and last line is put around the finished lines, so that every line break lies between
two arms, two statements or a delimiter and its content.
-/
import MessageTemplate.Compiled.Code
import MessageTemplate.Compiled.Literal

namespace MessageTemplate

/-- The decisions about source text that do not change its meaning, apart from the path
by which the called items are found. -/
structure SourceStyle where
  /-- The path of the module with the items that code calls. -/
  path : String
  /-- One level of indentation. -/
  indent : String

/-- The style used unless the caller says otherwise. -/
def SourceStyle.standard : SourceStyle :=
  { path := "::icumsg::runtime", indent := "    " }

namespace SourceStyle

variable (style : SourceStyle)

/-- The indentation of a level. -/
def indentation (level : Nat) : String :=
  String.join (List.replicate level style.indent)

/-- An item of the module that code calls. -/
def item (name : String) : String :=
  style.path ++ "::" ++ name

/-- A string literal. -/
def literal (text : String) : String :=
  "\"" ++ Literal.escape text ++ "\""

end SourceStyle

/-- The function that resolves a kind of branch. -/
def BranchKind.resolver : BranchKind → String
  | plural => "resolve_plural"
  | select => "resolve_select"

/-- A call in source. -/
def Call.source (style : SourceStyle) : Call → String
  | text values sink name =>
    style.item "text" ++ "(" ++ values ++ ", " ++ sink ++ ", " ++
      SourceStyle.literal name ++ ")"
  | number values name =>
    style.item "number" ++ "(" ++ values ++ ", " ++ SourceStyle.literal name ++ ")"

namespace Flat

/-- The format string: the fixed texts with a hole for each call. -/
def formatString (flat : Flat) : String :=
  flat.holes.foldl (fun text hole => text ++ "\x7b\x7d" ++ Literal.formatText hole.2)
    (Literal.formatText flat.first)

/-- Flat code in source. -/
def source (style : SourceStyle) (flat : Flat) : String :=
  if flat.isText then "String::from(" ++ SourceStyle.literal flat.first ++ ")"
  else
    "format!(" ++ SourceStyle.literal flat.formatString ++ ", " ++
      ", ".intercalate (flat.holes.map (·.1.source style)) ++ ")"

end Flat

/-- Puts text after the last of some lines. -/
def wrapLast (after : String) : List String → List String
  | [] => []
  | [line] => [line ++ after]
  | line :: rest => line :: wrapLast after rest

/-- Puts text before the first of some lines and after the last of them. -/
def wrapLines (before after : String) (lines : List String) : List String :=
  match wrapLast after lines with
  | [] => []
  | first :: rest => (before ++ first) :: rest

namespace Code

variable (style : SourceStyle)

/-- What stands before the body of a lazy arm. -/
def lazyHead (parameter : Option String) : String :=
  style.item "Arm" ++ "::Lazy(&|" ++ parameter.getD "_" ++ ": &mut dyn " ++
    style.item "DiagnosticSink" ++ "| "

mutual

/-- The lines of an expression.  The first is without indentation, the others are
indented for an expression at the given level. -/
def lines : Code → Nat → List String
  | .flat pieces, _ => [pieces.source style]
  | .resolve kind values sink name arms, level =>
    (style.item kind.resolver ++ "(" ++ values ++ ", " ++ sink ++ ", " ++
        SourceStyle.literal name ++ ", &[")
      :: armLines arms level ++ [style.indentation level ++ "])"]
  | .block buffer statements result, level =>
    "\x7b" :: (style.indentation (level + 1) ++ "let mut " ++ buffer ++ " = String::new();")
      :: statementLines statements level ++
      [style.indentation (level + 1) ++ result, style.indentation level ++ "\x7d"]

/-- The lines of the arms of a call at the given level. -/
def armLines : List (String × ArmCode Code) → Nat → List String
  | [], _ => []
  | (key, .text text) :: rest, level =>
    (style.indentation (level + 1) ++ "(" ++ SourceStyle.literal key ++ ", " ++
        style.item "Arm" ++ "::Text(" ++ SourceStyle.literal text ++ ")),")
      :: armLines rest level
  | (key, .lazy parameter body) :: rest, level =>
    wrapLines
        (style.indentation (level + 1) ++ "(" ++ SourceStyle.literal key ++ ", " ++
          lazyHead style parameter)
        ")),"
        (body.lines (level + 1))
      ++ armLines rest level

/-- The lines of the statements of a block at the given level. -/
def statementLines : List (Statement Code) → Nat → List String
  | [], _ => []
  | .pushText buffer text :: rest, level =>
    (style.indentation (level + 1) ++ buffer ++ ".push_str(" ++
        SourceStyle.literal text ++ ");")
      :: statementLines rest level
  | .pushCode buffer code :: rest, level =>
    wrapLines (style.indentation (level + 1) ++ buffer ++ ".push_str(&") ");"
        (code.lines (level + 1))
      ++ statementLines rest level

end

/-- The lines of an expression, all of them indented for the given level. -/
def source (code : Code) (level : Nat) : List String :=
  wrapLines (style.indentation level) "" (code.lines style level)

end Code

end MessageTemplate
