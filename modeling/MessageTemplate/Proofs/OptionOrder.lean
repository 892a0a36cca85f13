/-
The order of options does not matter.

A permutation of the options of one branch, wherever the branch is, is one step
(`Node.Permuted`), and trees that such steps lead to differ in the order of options only
(`Node.Reordered`).  A step keeps what is rendered, because options with distinct keys are found
in every order and because all that is around a branch asks only for what the branch renders to.

For compiled code the same is said of what it runs to, in every scope and under all names.  A
branch that is permuted is compiled to a resolver call of its own, which is a statement or an arm
of what is around it, so the code differs where the trees do and is built alike around that.
-/
import MessageTemplate.Proofs.Storage
import MessageTemplate.Proofs.Visits
import Mathlib.Logic.Relation

namespace MessageTemplate

namespace Node

/-! ### Trees that differ in the order of options -/

/-- A tree whose branches have distinct keys, each by itself. -/
def DistinctKeys (node : Node) : Prop :=
  ∀ choice ∈ node.branches, choice.keys.Nodup

/-- **A permutation of the options of one branch** somewhere in a tree. -/
inductive Permuted : Node → Node → Prop
  | options (name : String) (kind : BranchKind) {options others : List (String × Node)}
      (perm : options.Perm others) :
      Permuted (.branch { name, kind, options }) (.branch { name, kind, options := others })
  | part (before after : List Node) {part other : Node} (h : Permuted part other) :
      Permuted (.sequence (before ++ part :: after)) (.sequence (before ++ other :: after))
  | content (name : String) (kind : BranchKind) (before after : List (String × Node))
      (key : String) {content other : Node} (h : Permuted content other) :
      Permuted (.branch { name, kind, options := before ++ (key, content) :: after })
        (.branch { name, kind, options := before ++ (key, other) :: after })

/-- **Trees that differ in the order of options**, of any of their branches. -/
def Reordered : Node → Node → Prop :=
  Relation.ReflTransGen Permuted

namespace Reordered

variable {node other third : Node}

theorem refl (node : Node) : node.Reordered node :=
  Relation.ReflTransGen.refl

theorem trans (h : node.Reordered other) (hnext : other.Reordered third) :
    node.Reordered third :=
  Relation.ReflTransGen.trans h hnext

/-- Parts may be reordered, all of them at once. -/
theorem sequence {parts others : List Node} (h : List.Forall₂ Reordered parts others) :
    (Node.sequence parts).Reordered (.sequence others) := by
  suffices hbefore : ∀ before, (Node.sequence (before ++ parts)).Reordered
      (.sequence (before ++ others)) from hbefore []
  induction h with
  | nil => exact fun before => refl _
  | @cons part other rest rest' hpart _ ih =>
      intro before
      have hfirst : (Node.sequence (before ++ part :: rest)).Reordered
          (.sequence (before ++ other :: rest)) :=
        hpart.lift (fun part => Node.sequence (before ++ part :: rest))
          fun _ _ hstep => Permuted.part before rest hstep
      have hrest := ih (before ++ [other])
      rw [List.append_assoc, List.append_assoc] at hrest
      exact hfirst.trans hrest

/-- Contents may be reordered, all of them at once, and then the options themselves. -/
theorem branch (name : String) (kind : BranchKind) {options contents others : List (String × Node)}
    (h : List.Forall₂ (fun option content => option.1 = content.1 ∧ Reordered option.2 content.2)
      options contents)
    (perm : contents.Perm others) :
    (Node.branch { name, kind, options }).Reordered
      (.branch { name, kind, options := others }) := by
  suffices hbefore : ∀ before, (Node.branch { name, kind, options := before ++ options }).Reordered
      (.branch { name, kind, options := before ++ contents }) from
    (hbefore []).tail (Permuted.options name kind perm)
  clear perm
  induction h with
  | nil => exact fun before => refl _
  | @cons option content rest rest' hoption _ ih =>
      obtain ⟨key, tree⟩ := option
      obtain ⟨_, tree'⟩ := content
      obtain ⟨rfl, htree⟩ := hoption
      intro before
      have hfirst : (Node.branch { name, kind, options := before ++ (key, tree) :: rest }).Reordered
          (.branch { name, kind, options := before ++ (key, tree') :: rest }) :=
        htree.lift (fun tree => Node.branch { name, kind, options := before ++ (key, tree) :: rest })
          fun _ _ hstep => Permuted.content name kind before rest key hstep
      have hrest := ih (before ++ [(key, tree')])
      rw [List.append_assoc, List.append_assoc] at hrest
      exact hfirst.trans hrest

end Reordered

/-! ### One step keeps keys distinct -/

theorem DistinctKeys.of_isWithin {node tree : Node} (h : tree.DistinctKeys)
    (hwithin : node.IsWithin tree) : node.DistinctKeys :=
  fun choice hchoice => h choice (hwithin.branches choice hchoice)

theorem DistinctKeys.part {parts : List Node} (h : (Node.sequence parts).DistinctKeys)
    {part : Node} (hpart : part ∈ parts) : part.DistinctKeys :=
  h.of_isWithin ((IsWithin.refl _).part hpart)

theorem DistinctKeys.content {choice : Branch Node} (h : (Node.branch choice).DistinctKeys)
    {option : String × Node} (hoption : option ∈ choice.options) : option.2.DistinctKeys :=
  h.of_isWithin ((IsWithin.refl _).content hoption)

theorem DistinctKeys.keys {choice : Branch Node} (h : (Node.branch choice).DistinctKeys) :
    choice.keys.Nodup :=
  h choice (by simp [branches])

theorem distinctKeys_sequence {parts : List Node} :
    (Node.sequence parts).DistinctKeys ↔ ∀ part ∈ parts, part.DistinctKeys := by
  constructor
  · exact fun h part hpart => h.part hpart
  · intro h choice hchoice
    rw [branches, partBranches_eq_flatMap] at hchoice
    obtain ⟨part, hpart, hmem⟩ := List.mem_flatMap.mp hchoice
    exact h part hpart choice hmem

theorem distinctKeys_branch {choice : Branch Node} :
    (Node.branch choice).DistinctKeys
      ↔ choice.keys.Nodup ∧ ∀ option ∈ choice.options, option.2.DistinctKeys := by
  constructor
  · exact fun h => ⟨h.keys, fun option hoption => h.content hoption⟩
  · rintro ⟨hkeys, h⟩ other hother
    rw [branches, optionBranches_eq_flatMap] at hother
    rcases List.mem_cons.mp hother with rfl | hmem
    · exact hkeys
    · obtain ⟨option, hoption, hmem⟩ := List.mem_flatMap.mp hmem
      exact h option hoption other hmem

theorem Permuted.distinctKeys {node other : Node} (h : node.Permuted other) :
    node.DistinctKeys → other.DistinctKeys := by
  induction h with
  | options name kind perm =>
      intro distinct
      rw [distinctKeys_branch] at distinct ⊢
      have hkeys := perm.map (·.1)
      refine ⟨hkeys.nodup_iff.mp distinct.1, fun option hoption => ?_⟩
      exact distinct.2 option (perm.mem_iff.mpr hoption)
  | part before after _ ih =>
      intro distinct
      rw [distinctKeys_sequence, List.forall_mem_append, List.forall_mem_cons] at distinct ⊢
      exact ⟨distinct.1, ih distinct.2.1, distinct.2.2⟩
  | content name kind before after key _ ih =>
      intro distinct
      rw [distinctKeys_branch, List.forall_mem_append, List.forall_mem_cons] at distinct ⊢
      obtain ⟨hkeys, hbefore, hcontent, hafter⟩ := distinct
      refine ⟨?_, hbefore, ih hcontent, hafter⟩
      simpa [Branch.keys] using hkeys

end Node

/-! ### Rendering -/

section

variable {σ : Type} (sink : Sink σ) (values : Values)

/-- A branch renders alike with its options in another order. -/
theorem renderBranch_perm (name : String) (kind : BranchKind)
    {options others : List (String × Rendering σ)} (perm : options.Perm others)
    (distinct : (optionKeys options).Nodup) (number : Option Binary64) :
    renderBranch sink values { name, kind, options } number
      = renderBranch sink values { name, kind, options := others } number := by
  simp only [renderBranch, renderSelect, renderPlural, Branch.option?, Branch.select,
    lookup_perm perm distinct, selectOption_perm perm distinct]

namespace Node

/-- Parts ask of a part only what it renders to. -/
theorem renderParts_replace {part other : Node}
    (h : part.renderUnder sink values = other.renderUnder sink values) (before after : List Node)
    (number : Option Binary64) :
    renderParts sink values (before ++ part :: after) number
      = renderParts sink values (before ++ other :: after) number := by
  induction before with
  | nil => rw [List.nil_append, List.nil_append, renderParts, renderParts, h]
  | cons first before ih => rw [List.cons_append, List.cons_append, renderParts, renderParts, ih]

theorem optionKeys_optionRenderings (options : List (String × Node)) :
    optionKeys (optionRenderings sink values options) = optionKeys options := by
  rw [optionRenderings_eq_map, optionKeys, List.map_map]
  rfl

/-- **A step keeps what is rendered.** -/
theorem Permuted.renderUnder_eq {node other : Node} (h : node.Permuted other) :
    node.DistinctKeys → node.renderUnder sink values = other.renderUnder sink values := by
  induction h with
  | @options name kind options others perm =>
      intro distinct
      have hkeys : (optionKeys (optionRenderings sink values options)).Nodup := by
        rw [optionKeys_optionRenderings]
        exact distinct.keys
      have hperm : (optionRenderings sink values options).Perm
          (optionRenderings sink values others) := by
        rw [optionRenderings_eq_map, optionRenderings_eq_map]
        exact perm.map _
      funext number
      rw [renderUnder, renderUnder]
      exact renderBranch_perm sink values name kind hperm hkeys number
  | part before after _ ih =>
      intro distinct
      have hpart := ih (distinct.part (by simp))
      funext number
      rw [renderUnder, renderUnder]
      exact renderParts_replace sink values hpart before after number
  | @content name kind before after key content other _ ih =>
      intro distinct
      have hmem : (key, content) ∈ before ++ (key, content) :: after := by simp
      have hcontent : content.renderUnder sink values = other.renderUnder sink values :=
        ih (distinct.content hmem)
      have hcontents : optionRenderings sink values (before ++ (key, content) :: after)
          = optionRenderings sink values (before ++ (key, other) :: after) := by
        simp only [optionRenderings_eq_map, List.map_append, List.map_cons, hcontent]
      funext number
      rw [renderUnder, renderUnder, hcontents]

end Node

/-! ### Running code -/

/-- A resolver call gives the same with its arms in another order. -/
theorem Resolve.branch_perm (kind : BranchKind) (name : String) {arms others : List (String × Arm σ)}
    (perm : arms.Perm others) (distinct : (optionKeys arms).Nodup) :
    Resolve.branch sink values kind name arms = Resolve.branch sink values kind name others := by
  simp only [Resolve.branch, Resolve.plural, Resolve.select, lookup_perm perm distinct,
    selectOption_perm perm distinct]

namespace Code

/-- The computation of an arm. -/
def runArm? (arm : ArmCode Code) (scope : Scope) : Option (Arm σ) :=
  match arm with
  | .text text => some (.text text)
  | .lazy none body => (body.run? sink values scope).map .lazy
  | .lazy (some name) body => (body.run? sink values ((name, .sink) :: scope)).map .lazy

theorem runArms?_cons (key : String) (arm : ArmCode Code) (rest : List (String × ArmCode Code))
    (scope : Scope) :
    runArms? sink values ((key, arm) :: rest) scope
      = (runArm? sink values arm scope).bind fun run =>
          (runArms? sink values rest scope).map ((key, run) :: ·) := by
  cases arm with
  | text text =>
      rw [runArms?, runArm?, Option.bind_some]
      cases runArms? sink values rest scope <;> rfl
  | «lazy» parameter body =>
      cases parameter <;> rw [runArms?, runArm?] <;>
        cases body.run? sink values _ <;> cases runArms? sink values rest scope <;> rfl

/-- Arms in another order have the same computations in that order, or none in both. -/
theorem runArms?_perm {arms others : List (String × ArmCode Code)} (perm : arms.Perm others)
    (scope : Scope) :
    Option.Rel List.Perm (runArms? sink values arms scope) (runArms? sink values others scope) := by
  induction perm with
  | nil => exact Option.Rel.some List.Perm.nil
  | @cons arm arms others _ ih =>
      obtain ⟨key, arm⟩ := arm
      rw [runArms?_cons, runArms?_cons]
      generalize runArms? sink values arms scope = runs at ih ⊢
      generalize runArms? sink values others scope = runs' at ih ⊢
      cases runArm? sink values arm scope with
      | none => exact Option.Rel.none
      | some run =>
          cases ih with
          | none => exact Option.Rel.none
          | some hperm => exact Option.Rel.some (hperm.cons (key, run))
  | swap first second rest =>
      obtain ⟨key, arm⟩ := first
      obtain ⟨key', arm'⟩ := second
      rw [runArms?_cons, runArms?_cons, runArms?_cons, runArms?_cons]
      cases runArm? sink values arm scope with
      | none => cases runArm? sink values arm' scope <;> exact Option.Rel.none
      | some run =>
          cases runArm? sink values arm' scope with
          | none => exact Option.Rel.none
          | some run' =>
              cases runArms? sink values rest scope with
              | none => exact Option.Rel.none
              | some runs => exact Option.Rel.some (List.Perm.swap _ _ runs)
  | @trans arms middle others _ _ ih ih' =>
      generalize runArms? sink values arms scope = runs at ih ⊢
      generalize runArms? sink values middle scope = runs' at ih ih'
      cases ih with
      | none => exact ih'
      | some hperm =>
          generalize runArms? sink values others scope = runs at ih' ⊢
          cases ih' with
          | some hperm' => exact Option.Rel.some (hperm.trans hperm')

/-- The computations of arms have the keys of the arms. -/
theorem optionKeys_runArms? {arms : List (String × ArmCode Code)} {scope : Scope}
    {runs : List (String × Arm σ)} (h : runArms? sink values arms scope = some runs) :
    optionKeys runs = optionKeys arms := by
  induction arms generalizing runs with
  | nil =>
      obtain rfl := Option.some.inj h
      rfl
  | cons arm rest ih =>
      obtain ⟨key, arm⟩ := arm
      rw [runArms?_cons, Option.bind_eq_some_iff] at h
      obtain ⟨run, -, hrest⟩ := h
      obtain ⟨runs, hruns, rfl⟩ := Option.map_eq_some_iff.mp hrest
      exact congrArg (key :: ·) (ih hruns)

/-- A resolver call runs alike with its arms in another order. -/
theorem run?_resolve_perm (kind : BranchKind) (v s name : String)
    {arms others : List (String × ArmCode Code)} (perm : arms.Perm others)
    (distinct : (optionKeys arms).Nodup) (scope : Scope) :
    (resolve kind v s name arms).run? sink values scope
      = (resolve kind v s name others).run? sink values scope := by
  have hperm := runArms?_perm sink values perm scope
  rw [run?, run?]
  cases harms : runArms? sink values arms scope with
  | none =>
      rw [harms] at hperm
      generalize runArms? sink values others scope = runs at hperm ⊢
      cases hperm with
      | none => rfl
  | some runs =>
      have hkeys : (optionKeys runs).Nodup := by
        rw [optionKeys_runArms? sink values harms]
        exact distinct
      rw [harms] at hperm
      generalize runArms? sink values others scope = runs' at hperm ⊢
      cases hperm with
      | some hperm =>
          simp only [Option.bind_eq_bind, Option.bind_some,
            Resolve.branch_perm sink values kind name hperm hkeys]

/-- Arms ask of an arm only what it runs to. -/
theorem runArms?_replace {scope : Scope} {arm other : ArmCode Code}
    (h : runArm? sink values arm scope = runArm? sink values other scope) (key : String)
    (before after : List (String × ArmCode Code)) :
    runArms? sink values (before ++ (key, arm) :: after) scope
      = runArms? sink values (before ++ (key, other) :: after) scope := by
  induction before with
  | nil => rw [List.nil_append, List.nil_append, runArms?_cons, runArms?_cons, h]
  | cons first before ih =>
      obtain ⟨key', first⟩ := first
      rw [List.cons_append, List.cons_append, runArms?_cons, runArms?_cons, ih]

/-- Statements ask of code in one of them only what it runs to. -/
theorem runStatements?_replace {scope : Scope} {code other : Code}
    (h : code.run? sink values scope = other.run? sink values scope) (target buffer : String)
    (before after : List (Statement Code)) :
    runStatements? sink values (before ++ .pushCode target code :: after) buffer scope
      = runStatements? sink values (before ++ .pushCode target other :: after) buffer scope := by
  induction before with
  | nil => rw [List.nil_append, List.nil_append, runStatements?, runStatements?, h]
  | cons statement before ih =>
      cases statement with
      | pushText target' text =>
          rw [List.cons_append, List.cons_append, runStatements?, runStatements?, ih]
      | pushCode target' code' =>
          rw [List.cons_append, List.cons_append, runStatements?, runStatements?, ih]

end Code

end

/-! ### Compiling -/

/-- A step is made at a branch, so there is one before it and after it. -/
theorem Node.Permuted.containsBranch {node other : Node} (h : node.Permuted other) :
    node.containsBranch = true ∧ other.containsBranch = true := by
  induction h with
  | options name kind perm => exact ⟨rfl, rfl⟩
  | part before after _ ih =>
      have hparts : ∀ {part : Node}, part.containsBranch = true →
          Node.anyContainsBranch (before ++ part :: after) = true := by
        intro part hpart
        induction before with
        | nil => simp [Node.anyContainsBranch, hpart]
        | cons first before ihBefore => simp [Node.anyContainsBranch, ihBefore]
      exact ⟨hparts ih.1, hparts ih.2⟩
  | content name kind before after key _ _ => exact ⟨rfl, rfl⟩

namespace Code

variable (names : CodeNames)

/-- A tree with a branch reads a value, so its arm gets the sink. -/
theorem armOf_of_containsBranch {content : Node} (h : content.containsBranch = true)
    (number : Option String) :
    armOf names number content = .lazy (some names.sink) (ofNode names content number) := by
  have hnames : content.valueNames.isEmpty = false := by
    rw [List.isEmpty_eq_false_iff, Ne, Node.valueNames_eq_nil_iff]
    intro hnone
    obtain ⟨hbranch, -⟩ := @flatten_of_occurringNames names content hnone
    rw [h] at hbranch
    simp at hbranch
  rw [armOf, if_pos h, armParameter, hnames]
  rfl

/-- A part with a branch has a statement of its own, and the other statements do not depend on
it. -/
theorem exists_statementsOf (number : Option String) (before after : List Node) :
    ∀ run : Option Flat, ∃ first last, ∀ part : Node, part.containsBranch = true →
      statementsOf names (before ++ part :: after) run number
        = first ++ .pushCode names.buffer (ofNode names part number) :: last := by
  induction before with
  | nil =>
      intro run
      refine ⟨flushRun names run, statementsOf names after none number, fun part hpart => ?_⟩
      rw [List.nil_append, statementsOf, if_pos hpart]
  | cons part before ih =>
      intro run
      by_cases hbranch : part.containsBranch = true
      · obtain ⟨first, last, hstatements⟩ := ih none
        refine ⟨flushRun names run ++ .pushCode names.buffer (ofNode names part number) :: first,
          last, fun other hother => ?_⟩
        rw [List.cons_append, statementsOf, if_pos hbranch, hstatements other hother,
          List.append_assoc, List.cons_append]
      · obtain ⟨first, last, hstatements⟩ :=
          ih (some ((run.getD Flat.empty).append (flatten names number part)))
        refine ⟨first, last, fun other hother => ?_⟩
        rw [List.cons_append, statementsOf, if_neg hbranch, hstatements other hother]

/-- **A step keeps what compiled code runs to**, in every scope. -/
theorem run?_of_permuted {σ : Type} (sink : Sink σ) (values : Values) {node other : Node}
    (h : node.Permuted other) : node.DistinctKeys → ∀ (number : Option String) (scope : Scope),
      (ofNode names node number).run? sink values scope
        = (ofNode names other number).run? sink values scope := by
  induction h with
  | @options name kind options others perm =>
      intro distinct number scope
      have harms := perm.map fun option : String × Node =>
        (option.1, armOf names (optionNumber kind name number) option.2)
      rw [ofNode, ofNode, armsOf_eq_map, armsOf_eq_map]
      refine run?_resolve_perm sink values kind _ _ name harms ?_ scope
      rw [optionKeys, List.map_map]
      exact distinct.keys
  | @part before after part other hstep ih =>
      intro distinct number scope
      have hpart := ih (distinct.part (by simp)) number
      obtain ⟨hbranch, hbranch'⟩ := hstep.containsBranch
      obtain ⟨first, last, hstatements⟩ := exists_statementsOf names number before after none
      obtain ⟨hparts, hparts'⟩ := (Node.Permuted.part before after hstep).containsBranch
      rw [Node.containsBranch] at hparts hparts'
      rw [ofNode, ofNode, if_pos hparts, if_pos hparts', hstatements part hbranch,
        hstatements other hbranch', run?, run?]
      simp only [if_true]
      exact runStatements?_replace sink values (hpart _) _ _ first last
  | @content name kind before after key content other hstep ih =>
      intro distinct number scope
      let inside := optionNumber kind name number
      have hmem : (key, content) ∈ before ++ (key, content) :: after := by simp
      have hcontent := ih (distinct.content hmem) inside
      obtain ⟨hbranch, hbranch'⟩ := hstep.containsBranch
      have harm : runArm? sink values (armOf names inside content) scope
          = runArm? sink values (armOf names inside other) scope := by
        rw [armOf_of_containsBranch names hbranch, armOf_of_containsBranch names hbranch', runArm?,
          runArm?, hcontent]
      rw [ofNode, ofNode, armsOf_eq_map, armsOf_eq_map]
      simp only [List.map_append, List.map_cons]
      rw [run?, run?, runArms?_replace sink values harm]

end Code

/-! ### Any number of steps -/

/-- **Trees that say and report the same**, rendered or compiled. -/
structure Node.Interchangeable (node other : Node) : Prop where
  /-- They render to the same text with the same reports. -/
  rendered : ∀ {σ : Type} (sink : Sink σ) (values : Values),
    node.render sink values = other.render sink values
  /-- Their code runs alike, under all names and in all scopes. -/
  compiled : ∀ {σ : Type} (sink : Sink σ) (values : Values) (names : CodeNames) (scope : Scope),
    (node.compile names).run? sink values scope = (other.compile names).run? sink values scope
  /-- Where the code should run it does. -/
  runs : ∀ {σ : Type} (sink : Sink σ) (values : Values) (names : CodeNames), names.Distinct →
    ∃ run, (other.compile names).run? sink values (Scope.ofParameters names.values names.sink)
      = some run

theorem Node.Reordered.distinctKeys {node other : Node} (h : node.Reordered other)
    (distinct : node.DistinctKeys) : other.DistinctKeys := by
  induction h with
  | refl => exact distinct
  | tail _ hstep ih => exact hstep.distinctKeys ih

/-- What every step keeps, where keys are distinct, is alike in trees that differ in the order of
options. -/
theorem Node.Reordered.keeps {β : Type} {f : Node → β}
    (step : ∀ {node other : Node}, node.Permuted other → node.DistinctKeys → f node = f other)
    {node other : Node} (h : node.Reordered other) (distinct : node.DistinctKeys) :
    f node = f other := by
  induction h with
  | refl => rfl
  | tail hsteps hstep ih =>
      have hdistinct := Node.Reordered.distinctKeys hsteps distinct
      rw [ih, step hstep hdistinct]

/--
**The order of options does not matter.**

If every branch of a tree has distinct keys, the options of any of its branches may be put into
another order, at any depth and in as many branches as one likes: rendering and compiled code say
and report the same.
-/
theorem Node.Reordered.interchangeable {node other : Node} (h : node.Reordered other)
    (distinct : node.DistinctKeys) : node.Interchangeable other where
  rendered := by
    intro σ sink values
    have hunder : node.renderUnder sink values = other.renderUnder sink values :=
      h.keeps (fun hstep hdistinct => hstep.renderUnder_eq sink values hdistinct) distinct
    exact congrFun hunder none
  compiled := by
    intro σ sink values names scope
    exact h.keeps (f := fun node => (node.compile names).run? sink values scope)
      (fun hstep hdistinct => Code.run?_of_permuted names sink values hstep hdistinct none scope)
      distinct
  runs := by
    intro σ sink values names hnames
    exact ⟨_, Code.ofNode_run hnames other none _ (Scope.Serves.ofParameters hnames)⟩

/-- A plural branch and a select branch in one of its options, both written the other way round,
between two other parts. -/
theorem Node.Reordered.interchangeable_nested :
    let inside (first second : String × Node) : Node :=
      .branch { name := "b", kind := .select, options := [first, second] }
    let outside (first second : String × Node) : Node :=
      .sequence [.literal "so ",
        .branch { name := "a", kind := .plural, options := [first, second] }, .placeholder "b"]
    let yes : String × Node := ("yes", .sequence [.numberField, .literal " of them"])
    let no : String × Node := (otherKey, .literal "none")
    let node := outside ("one", inside yes no) (otherKey, .numberField)
    let other := outside (otherKey, .numberField) ("one", inside no yes)
    node ≠ other ∧ node.Reordered other ∧ node.DistinctKeys ∧ node.Interchangeable other := by
  intro inside outside yes no node other
  have hinside : (inside yes no).Reordered (inside no yes) :=
    Relation.ReflTransGen.single (Permuted.options "b" .select (List.Perm.swap no yes []))
  have hcontents : List.Forall₂
      (fun option content : String × Node => option.1 = content.1 ∧ option.2.Reordered content.2)
      [("one", inside yes no), (otherKey, .numberField)]
      [("one", inside no yes), (otherKey, .numberField)] :=
    .cons ⟨rfl, hinside⟩ (.cons ⟨rfl, .refl Node.numberField⟩ .nil)
  have hbranch := Node.Reordered.branch "a" .plural hcontents
    (List.Perm.swap (otherKey, Node.numberField) ("one", inside no yes) [])
  have hreordered : node.Reordered other :=
    Node.Reordered.sequence (.cons (.refl _) (.cons hbranch (.cons (.refl _) .nil)))
  have hdistinct : node.DistinctKeys := by
    intro choice hchoice
    have hcases : choice.keys = ["one", otherKey] ∨ choice.keys = ["yes", otherKey] := by
      simp [node, outside, inside, yes, no, branches, partBranches, optionBranches] at hchoice
      rcases hchoice with rfl | rfl <;> simp [Branch.keys]
    rcases hcases with hkeys | hkeys <;> rw [hkeys] <;> decide
  refine ⟨?_, hreordered, hdistinct, Node.Reordered.interchangeable hreordered hdistinct⟩
  simp [node, other, outside, otherKey]

end MessageTemplate
