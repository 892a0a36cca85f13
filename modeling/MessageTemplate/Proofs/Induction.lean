/-
Induction over trees and over code.

Trees and code have their children in lists, under keys and in statements.  Induction gives
what is to be shown for each child; how the children stand in their lists is a matter for
the lists.
-/
import MessageTemplate.Compiled.Code

namespace MessageTemplate

/-- What holds of a node whenever it holds of its parts or contents holds of every node. -/
@[elab_as_elim]
theorem Node.treeInduction {motive : Node → Prop}
    (sequence : ∀ parts, (∀ part ∈ parts, motive part) → motive (.sequence parts))
    (literal : ∀ text, motive (.literal text)) (numberField : motive .numberField)
    (placeholder : ∀ name, motive (.placeholder name))
    (branch : ∀ choice : Branch Node, (∀ option ∈ choice.options, motive option.2) →
      motive (.branch choice)) (node : Node) : motive node := by
  cases node with
  | sequence parts =>
      refine sequence parts fun part hpart => ?_
      exact treeInduction sequence literal numberField placeholder branch part
  | literal text => exact literal text
  | numberField => exact numberField
  | placeholder name => exact placeholder name
  | branch choice =>
      refine branch choice fun option hoption => ?_
      exact treeInduction sequence literal numberField placeholder branch option.2
termination_by sizeOf node
decreasing_by
  · have := List.sizeOf_lt_of_mem hpart
    simp only [Node.sequence.sizeOf_spec]
    omega
  · have := List.sizeOf_lt_of_mem hoption
    obtain ⟨key, content⟩ := option
    cases choice
    simp only [Node.branch.sizeOf_spec, Branch.mk.sizeOf_spec, Prod.mk.sizeOf_spec] at this ⊢
    omega

/-- What holds of code whenever it holds of the bodies of its arms or of the code in its
statements holds of all code. -/
@[elab_as_elim]
theorem Code.codeInduction {motive : Code → Prop} (flat : ∀ pieces, motive (.flat pieces))
    (resolve : ∀ kind values sink name (arms : List (String × ArmCode Code)),
      (∀ key parameter body, (key, .lazy parameter body) ∈ arms → motive body) →
        motive (.resolve kind values sink name arms))
    (block : ∀ buffer (statements : List (Statement Code)) result,
      (∀ target code, .pushCode target code ∈ statements → motive code) →
        motive (.block buffer statements result)) (code : Code) : motive code := by
  cases code with
  | flat pieces => exact flat pieces
  | resolve kind values sink name arms =>
      refine resolve kind values sink name arms fun key parameter body harm => ?_
      exact codeInduction flat resolve block body
  | block buffer statements result =>
      refine block buffer statements result fun target code hstatement => ?_
      exact codeInduction flat resolve block code
termination_by sizeOf code
decreasing_by
  · have := List.sizeOf_lt_of_mem harm
    simp only [Code.resolve.sizeOf_spec, Prod.mk.sizeOf_spec, ArmCode.lazy.sizeOf_spec] at this ⊢
    omega
  · have := List.sizeOf_lt_of_mem hstatement
    simp only [Code.block.sizeOf_spec, Statement.pushCode.sizeOf_spec] at this ⊢
    omega

end MessageTemplate
