/-
The names and the branches of a tree.

The names that a tree reads are listed each once and in order.  That list has the same names
as the tree itself, which is all that is needed of it.  Parts and contents have no names and
no branches but those of the tree.
-/
import MessageTemplate.Node

namespace MessageTemplate

namespace Node

/-! ### The list of names -/

theorem mem_insertName {name other : String} {names : List String} :
    name ∈ insertName other names ↔ name = other ∨ name ∈ names := by
  induction names with
  | nil => simp [insertName]
  | cons first rest ih =>
      unfold insertName
      by_cases heq : other = first
      · simp [heq]
      · rw [if_neg heq]
        by_cases hlt : other < first
        · rw [if_pos hlt, List.mem_cons]
        · rw [if_neg hlt, List.mem_cons, ih, List.mem_cons]
          exact or_left_comm

/-- The list has the names that occur. -/
theorem mem_valueNames_iff {node : Node} {name : String} :
    name ∈ node.valueNames ↔ name ∈ node.occurringNames := by
  unfold valueNames
  induction node.occurringNames with
  | nil => simp
  | cons first rest ih => rw [List.foldr_cons, mem_insertName, ih, List.mem_cons]

theorem valueNames_eq_nil_iff (node : Node) :
    node.valueNames = [] ↔ node.occurringNames = [] := by
  simp only [List.eq_nil_iff_forall_not_mem, mem_valueNames_iff]

/-! ### Parts and contents -/

theorem partNames_eq_flatMap (parts : List Node) :
    partNames parts = parts.flatMap occurringNames := by
  induction parts with
  | nil => rfl
  | cons part rest ih => rw [partNames, ih, List.flatMap_cons]

theorem optionNames_eq_flatMap (options : List (String × Node)) :
    optionNames options = options.flatMap fun option => option.2.occurringNames := by
  induction options with
  | nil => rfl
  | cons option rest ih => rw [optionNames, ih, List.flatMap_cons]

mutual

/-- The branches in a tree. -/
def branches : Node → List (Branch Node)
  | .sequence parts => partBranches parts
  | .literal _ => []
  | .numberField => []
  | .placeholder _ => []
  | .branch choice => choice :: optionBranches choice.options

/-- The branches in parts. -/
def partBranches : List Node → List (Branch Node)
  | [] => []
  | part :: rest => part.branches ++ partBranches rest

/-- The branches in the contents of options. -/
def optionBranches : List (String × Node) → List (Branch Node)
  | [] => []
  | (_, content) :: rest => content.branches ++ optionBranches rest

end

theorem partBranches_eq_flatMap (parts : List Node) :
    partBranches parts = parts.flatMap branches := by
  induction parts with
  | nil => rfl
  | cons part rest ih => rw [partBranches, ih, List.flatMap_cons]

theorem optionBranches_eq_flatMap (options : List (String × Node)) :
    optionBranches options = options.flatMap fun option => option.2.branches := by
  induction options with
  | nil => rfl
  | cons option rest ih => rw [optionBranches, ih, List.flatMap_cons]

/-- A node that has no names and no branches but those of a tree. -/
structure IsWithin (node tree : Node) : Prop where
  names : ∀ name ∈ node.occurringNames, name ∈ tree.occurringNames
  branches : ∀ choice ∈ node.branches, choice ∈ tree.branches

namespace IsWithin

variable {tree : Node}

theorem refl (tree : Node) : tree.IsWithin tree :=
  ⟨fun _ h => h, fun _ h => h⟩

theorem part {parts : List Node} (h : (sequence parts).IsWithin tree) {part : Node}
    (hpart : part ∈ parts) : part.IsWithin tree := by
  constructor
  · intro name hname
    apply h.names
    rw [occurringNames, partNames_eq_flatMap]
    exact List.mem_flatMap_of_mem hpart hname
  · intro choice hchoice
    apply h.branches
    rw [Node.branches, partBranches_eq_flatMap]
    exact List.mem_flatMap_of_mem hpart hchoice

theorem content {choice : Branch Node} (h : (branch choice).IsWithin tree)
    {option : String × Node} (hoption : option ∈ choice.options) :
    option.2.IsWithin tree := by
  constructor
  · intro name hname
    apply h.names
    rw [occurringNames, optionNames_eq_flatMap]
    exact List.mem_cons_of_mem _ (List.mem_flatMap_of_mem hoption hname)
  · intro other hother
    apply h.branches
    rw [Node.branches, optionBranches_eq_flatMap]
    exact List.mem_cons_of_mem _ (List.mem_flatMap_of_mem hoption hother)

end IsWithin

end Node

end MessageTemplate
