/-
The identifiers in code.

These are the words of code for what it reads, writes and binds.  Reading its source back needs
them to be identifiers and no keywords.
-/
import MessageTemplate.Compiled.Code

namespace MessageTemplate

/-- The identifiers of a call. -/
def Call.identifiers : Call → List String
  | text values sink _ => [values, sink]
  | number values _ => [values]

/-- The identifiers of flat code. -/
def Flat.identifiers (flat : Flat) : List String :=
  flat.holes.flatMap (·.1.identifiers)

namespace Code

mutual

/-- The identifiers of code, except those of the items that it calls. -/
def identifiers : Code → List String
  | .flat pieces => pieces.identifiers
  | .resolve _ values sink _ arms => values :: sink :: armIdentifiers arms
  | .block buffer statements result => buffer :: result :: statementIdentifiers statements

/-- The identifiers of arms. -/
def armIdentifiers : List (String × ArmCode Code) → List String
  | [] => []
  | (_, .text _) :: rest => armIdentifiers rest
  | (_, .lazy parameter body) :: rest =>
    parameter.toList ++ body.identifiers ++ armIdentifiers rest

/-- The identifiers of statements. -/
def statementIdentifiers : List (Statement Code) → List String
  | [] => []
  | .pushText buffer _ :: rest => buffer :: statementIdentifiers rest
  | .pushCode buffer code :: rest => buffer :: code.identifiers ++ statementIdentifiers rest

end

end Code

/-- The names for the values, the sink and the buffer. -/
def CodeNames.all (names : CodeNames) : List String :=
  [names.values, names.sink, names.buffer]

/-! ### Flat code -/

namespace Flat

theorem appendText_calls (first text : String) (holes : List (Call × String)) :
    (appendText first text holes).2.map (·.1) = holes.map (·.1) := by
  induction holes generalizing first with
  | nil => rfl
  | cons hole rest ih =>
      obtain ⟨call, after⟩ := hole
      simp only [appendText, List.map_cons, ih]

theorem calls_append (a b : Flat) :
    (a.append b).holes.map (·.1) = a.holes.map (·.1) ++ b.holes.map (·.1) := by
  simp only [append, List.map_append, appendText_calls]

end Flat

end MessageTemplate
