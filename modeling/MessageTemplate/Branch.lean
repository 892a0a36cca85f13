/-
Branches: a choice between contents by key.

A branch reads one value and has options, each a key with a content.  Its options are
an insertion-ordered map: a key that comes again replaces the content written earlier
and keeps its place.  The type of contents is a parameter, because the same rule of
choice serves parsed contents, contents that are still to be evaluated, and texts.

The rule of choice is `selectOption`: the first option with the key, else the first
option with the key `other`.
-/
namespace MessageTemplate

/-- What a branch does with its value: put it into a number bucket, or take its text. -/
inductive BranchKind where
  | plural
  | select
deriving DecidableEq

namespace BranchKind

/-- The word that names a kind of branch in a template. -/
def operator : BranchKind → String
  | plural => "plural"
  | select => "select"

/-- All kinds, in the order in which error messages list them. -/
def all : List BranchKind :=
  [plural, select]

/-- The kind that a word names. -/
def ofOperator? (word : String) : Option BranchKind :=
  all.find? fun kind => kind.operator == word

end BranchKind

/-- The key of the option that stands in for a missing one. -/
def otherKey : String :=
  "other"

/-- The content for a key, or else the content for `other`. -/
def selectOption {α : Type} (options : List (String × α)) (key : String) : Option α :=
  options.lookup key <|> options.lookup otherKey

/-- Writes a content under a key: in the place of the key if it is there, else at the
end. -/
def insertOption {α : Type} (key : String) (content : α) :
    List (String × α) → List (String × α)
  | [] => [(key, content)]
  | (k, c) :: rest =>
    if k = key then (k, content) :: rest else (k, c) :: insertOption key content rest

/-- A choice between contents of type `α`. -/
structure Branch (α : Type) where
  /-- The name of the value that the branch reads. -/
  name : String
  kind : BranchKind
  /-- The options in the order of their first insertion. -/
  options : List (String × α)

namespace Branch

variable {α : Type}

/-- A branch without options. -/
def empty (name : String) (kind : BranchKind) : Branch α :=
  { name, kind, options := [] }

/-- Adds an option, or replaces the content of the option with that key. -/
def insert (branch : Branch α) (key : String) (content : α) : Branch α :=
  { branch with options := insertOption key content branch.options }

/-- The content of the option with exactly this key. -/
def option? (branch : Branch α) (key : String) : Option α :=
  branch.options.lookup key

/-- The content for a key, with `other` standing in for a missing one. -/
def select (branch : Branch α) (key : String) : Option α :=
  selectOption branch.options key

/-- The keys in order. -/
def keys (branch : Branch α) : List String :=
  branch.options.map (·.1)

end Branch

end MessageTemplate
