/-
Code has the parts of its template, each once and in order.

An outline tells what a template or code puts out, without saying how: characters, the
texts of values and numbers, and choices with an outline for each option.  A text is its
characters, so that texts that meet need no attention.  A number field has the number of
the plural branch that is nearest around it, and is text where there is none.

The outline of a tree and that of the code for it are given separately, and they are
equal (`Code.ofNode_outline`).
-/
import MessageTemplate.Compiled.Code

namespace MessageTemplate

/-- A part of what is put out. -/
inductive Part where
  | char (c : Char)
  /-- The text of a value. -/
  | value (name : String)
  /-- The number of a value. -/
  | number (name : String)
  /-- One of the options, chosen by a value. -/
  | choice (kind : BranchKind) (name : String) (options : List (String × List Part))

namespace Part

/-- The parts of a text. -/
def ofText (text : String) : List Part :=
  text.toList.map char

@[simp] theorem ofText_empty : ofText "" = [] := rfl

@[simp] theorem ofText_append (a b : String) : ofText (a ++ b) = ofText a ++ ofText b := by
  simp [ofText]

end Part

namespace Node

mutual

/-- The outline of a tree; `number` names the value of the nearest plural branch around
it. -/
def outline (number : Option String) : Node → List Part
  | .sequence parts => partsOutline number parts
  | .literal text => Part.ofText text
  | .numberField =>
    match number with
    | some name => [.number name]
    | none => Part.ofText "\x7b#\x7d"
  | .placeholder name => [.value name]
  | .branch choice =>
    match choice.kind with
    | .plural => [.choice .plural choice.name (optionOutlines (some choice.name) choice.options)]
    | .select => [.choice .select choice.name (optionOutlines number choice.options)]

/-- The outline of parts, one after the other. -/
def partsOutline (number : Option String) : List Node → List Part
  | [] => []
  | part :: rest => part.outline number ++ partsOutline number rest

/-- The outlines of the contents of options, with their keys. -/
def optionOutlines (number : Option String) :
    List (String × Node) → List (String × List Part)
  | [] => []
  | (key, content) :: rest => (key, content.outline number) :: optionOutlines number rest

end

end Node

/-- The part that a call puts out. -/
def Call.part : Call → Part
  | text _ _ name => .value name
  | number _ name => .number name

/-- The outline of flat code. -/
def Flat.outline (flat : Flat) : List Part :=
  Part.ofText flat.first ++ flat.holes.flatMap fun hole => hole.1.part :: Part.ofText hole.2

namespace Code

mutual

/-- The outline of code. -/
def outline : Code → List Part
  | .flat pieces => pieces.outline
  | .resolve kind _ _ name arms => [.choice kind name (armOutlines arms)]
  | .block _ statements _ => statementOutlines statements

/-- The outlines of arms, with their keys. -/
def armOutlines : List (String × ArmCode Code) → List (String × List Part)
  | [] => []
  | (key, .text text) :: rest => (key, Part.ofText text) :: armOutlines rest
  | (key, .lazy _ body) :: rest => (key, body.outline) :: armOutlines rest

/-- The outline of what statements append. -/
def statementOutlines : List (Statement Code) → List Part
  | [] => []
  | .pushText _ text :: rest => Part.ofText text ++ statementOutlines rest
  | .pushCode _ code :: rest => code.outline ++ statementOutlines rest

end

end Code

/-! ### Flat code -/

namespace Flat

theorem appendText_outline (first text : String) (holes : List (Call × String)) :
    outline { first := (appendText first text holes).1, holes := (appendText first text holes).2 }
      = outline { first, holes } ++ Part.ofText text := by
  induction holes generalizing first with
  | nil => simp [appendText, outline]
  | cons hole rest ih =>
      obtain ⟨call, after⟩ := hole
      have hrest := ih after
      simp only [outline, appendText, List.flatMap_cons, List.append_assoc,
        List.cons_append] at hrest ⊢
      rw [hrest]

@[simp] theorem outline_append (a b : Flat) :
    (a.append b).outline = a.outline ++ b.outline := by
  have htext := appendText_outline a.first b.first a.holes
  simp only [outline, append, List.flatMap_append] at htext ⊢
  rw [← List.append_assoc, htext]
  simp

@[simp] theorem outline_empty : empty.outline = [] := rfl

@[simp] theorem outline_ofText (text : String) : (ofText text).outline = Part.ofText text := by
  simp [outline, ofText]

@[simp] theorem outline_ofCall (call : Call) : (ofCall call).outline = [call.part] := by
  simp [outline, ofCall]

theorem outline_of_isText {flat : Flat} (h : flat.isText = true) :
    flat.outline = Part.ofText flat.first := by
  have hholes : flat.holes = [] := by simpa [isText] using h
  simp [outline, hholes]

end Flat

namespace Code

variable (names : CodeNames)

mutual

theorem flatten_outline (number : Option String) :
    ∀ node : Node, node.containsBranch = false →
      (flatten names number node).outline = node.outline number
  | .sequence parts, h => by
      rw [flatten, Node.outline]
      exact flattenParts_outline number parts (by simpa [Node.containsBranch] using h)
  | .literal text, _ => by rw [flatten, Flat.outline_ofText, Node.outline]
  | .numberField, _ => by cases number <;> simp [flatten, Node.outline, Call.part]
  | .placeholder name, _ => by simp [flatten, Node.outline, Call.part]
  | .branch choice, h => by simp [Node.containsBranch] at h

theorem flattenParts_outline (number : Option String) :
    ∀ parts : List Node, Node.anyContainsBranch parts = false →
      (flattenParts names number parts).outline = Node.partsOutline number parts
  | [], _ => by rw [flattenParts, Node.partsOutline, Flat.outline_empty]
  | part :: rest, h => by
      have hparts : part.containsBranch = false ∧ Node.anyContainsBranch rest = false := by
        simpa [Node.anyContainsBranch] using h
      rw [flattenParts, Node.partsOutline, Flat.outline_append,
        flatten_outline number part hparts.1, flattenParts_outline number rest hparts.2]

end

/-! ### Code -/

theorem statementOutlines_append (first second : List (Statement Code)) :
    statementOutlines (first ++ second) = statementOutlines first ++ statementOutlines second := by
  induction first with
  | nil => rfl
  | cons statement first ih => cases statement <;> simp [statementOutlines, ih]

theorem flushRun_outline (run : Option Flat) :
    statementOutlines (flushRun names run) = (run.getD Flat.empty).outline := by
  cases run with
  | none => rfl
  | some flat =>
      rw [flushRun, Option.getD_some]
      by_cases htext : flat.isText = true
      · simp [htext, statementOutlines, Flat.outline_of_isText htext]
      · simp [htext, statementOutlines, outline]

mutual

/-- **Code puts out what its tree does: every part once, in its place.** -/
theorem ofNode_outline :
    ∀ (node : Node) (number : Option String),
      (ofNode names node number).outline = node.outline number
  | .branch choice, number => by
      have harms := armsOf_outline choice.options (optionNumber choice.kind choice.name number)
      rw [ofNode, outline, Node.outline, harms]
      cases choice.kind <;> rfl
  | .sequence parts, number => by
      rw [ofNode, Node.outline]
      by_cases hbranch : Node.anyContainsBranch parts = true
      · have hstatements := statementsOf_outline parts none number
        simpa [hbranch, outline] using hstatements
      · rw [if_neg hbranch, outline]
        exact flattenParts_outline names number parts (by simpa using hbranch)
  | .literal text, number => flatten_outline names number (.literal text) rfl
  | .numberField, number => flatten_outline names number .numberField rfl
  | .placeholder name, number => flatten_outline names number (.placeholder name) rfl

/-- The statements of a block put out what was kept back, and then the parts. -/
theorem statementsOf_outline :
    ∀ (parts : List Node) (run : Option Flat) (number : Option String),
      statementOutlines (statementsOf names parts run number)
        = (run.getD Flat.empty).outline ++ Node.partsOutline number parts
  | [], run, number => by
      rw [statementsOf, flushRun_outline, Node.partsOutline, List.append_nil]
  | part :: rest, run, number => by
      rw [statementsOf, Node.partsOutline]
      by_cases hbranch : part.containsBranch = true
      · have hrest := statementsOf_outline rest none number
        rw [Option.getD_none, Flat.outline_empty, List.nil_append] at hrest
        rw [if_pos hbranch, statementOutlines_append, flushRun_outline, statementOutlines,
          ofNode_outline part number, hrest]
      · rw [if_neg hbranch, statementsOf_outline rest _ number, Option.getD_some,
          Flat.outline_append, flatten_outline names number part (by simpa using hbranch),
          List.append_assoc]

/-- Arms have the keys of the options in their order, and put out what those do. -/
theorem armsOf_outline :
    ∀ (options : List (String × Node)) (number : Option String),
      armOutlines (armsOf names options number) = Node.optionOutlines number options
  | [], number => rfl
  | (key, content) :: rest, number => by
      have hrest := armsOf_outline rest number
      rw [armsOf, Node.optionOutlines]
      by_cases hbranch : content.containsBranch = true
      · rw [if_pos hbranch, armOutlines, ofNode_outline content number, hrest]
      · have hflat := flatten_outline names number content (by simpa using hbranch)
        rw [if_neg hbranch, flatArm]
        by_cases htext : (flatten names number content).isText = true
        · rw [if_pos htext, armOutlines, hrest, ← Flat.outline_of_isText htext, hflat]
        · rw [if_neg htext, armOutlines, outline, hflat, hrest]

end

end Code

end MessageTemplate
