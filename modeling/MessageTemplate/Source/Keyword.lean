/-
Keywords of Rust: the words that name nothing.
-/
namespace MessageTemplate

namespace Source

/-- The keywords of the editions 2018 and 2021, those reserved for the future included.  The
word `gen`, which the edition 2024 reserves as well, is not among them. -/
def keywords : List String :=
  ["_", "abstract", "as", "async", "await", "become", "box", "break", "const", "continue",
   "crate", "do", "dyn", "else", "enum", "extern", "false", "final", "fn", "for", "if",
   "impl", "in", "let", "loop", "macro", "match", "mod", "move", "mut", "override", "priv",
   "pub", "ref", "return", "Self", "self", "static", "struct", "super", "trait", "true",
   "try", "type", "typeof", "unsafe", "unsized", "use", "virtual", "where", "while",
   "yield"]

/-- Whether a word is a keyword. -/
def isKeyword (word : String) : Bool :=
  keywords.contains word

/-- Whether a name is marked as raw. -/
def isRaw (name : String) : Bool :=
  name.startsWith "r#"

end Source

end MessageTemplate
