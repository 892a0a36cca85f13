/-
Number fields show a number.

A number field may stand anywhere in a tree, and where there is no number for it, it shows
`{#}`.  In a template that is parsed it stands only in the contents of plural branches, with no
select branch in between, and there the number is found in three ways.  Rendering hands it on
to the content that it has chosen.  The compiler hands on the name of the branch.  Running code
looks the value up again under that name.

All three go back to two facts.  In normal form the branch that is nearest around a number field
is a plural one (`Node.Normal`), and the content of a plural branch is entered only if its value
has a number (`Branch.operand?_of_content?`).
-/
import MessageTemplate.Proofs.Compiled.Equivalence
import MessageTemplate.Proofs.Compiled.Outline
import MessageTemplate.Proofs.Compiled.Steps
import MessageTemplate.Proofs.NormalForm
import MessageTemplate.Proofs.Visits

namespace MessageTemplate

variable {values : Values} {names : CodeNames}

/-! ### The text of a number -/

/-- The text of a number in its places has no brace. -/
theorem NumberStyle.openBrace_notMem_placed {digits : List Char} (h : '{' ∉ digits)
    (point : Int) : '{' ∉ (template.placed digits point).toList := by
  have htake : '{' ∉ digits.take point.natAbs := fun hmem => h (List.mem_of_mem_take hmem)
  have hdrop : '{' ∉ digits.drop point.natAbs := fun hmem => h (List.mem_of_mem_drop hmem)
  unfold placed
  by_cases hsmall : point ≤ 0
  · simp [hsmall, h]
  · by_cases hwhole : digits.length ≤ point
    · simp [hsmall, hwhole, h, template]
    · simp [hsmall, hwhole, htake, hdrop]

theorem NumberStyle.openBrace_notMem_magnitude (rank : Nat) :
    '{' ∉ (template.magnitude rank).toList := by
  have hdigits : ∀ m : Nat, '{' ∉ Nat.toDigits 10 m := by
    intro m hmem
    have hdigit := Nat.isDigit_of_mem_toDigits (by decide) (by decide) hmem
    simp at hdigit
  have hpositional : ∀ power, template.positional power = true := fun _ => rfl
  unfold magnitude
  by_cases hzero : rank = 0
  · simp [hzero, template]
  · simp only [hzero, if_false, hpositional, if_true]
    refine openBrace_notMem_placed (fun hmem => ?_) _
    have hsub := (List.dropWhile_sublist _).subset (List.mem_reverse.mp hmem)
    exact hdigits _ (List.mem_reverse.mp hsub)

theorem Binary64.openBrace_notMem_display (n : Binary64) : '{' ∉ n.display.toList := by
  cases n with
  | nan => simp [display]
  | infinite negative => cases negative <;> simp [display]
  | finite negative rank =>
      rw [display, NumberStyle.signed, String.toList_append, List.mem_append, not_or]
      refine ⟨?_, NumberStyle.openBrace_notMem_magnitude rank.val⟩
      by_cases hnegative : (negative && rank.val != 0) = true
      · simp [hnegative]
      · simp [hnegative]

/-- No number has the text that stands in for one. -/
theorem Binary64.display_ne_numberField (n : Binary64) : n.display ≠ "\x7b#\x7d" := by
  intro h
  apply n.openBrace_notMem_display
  rw [h]
  simp

/-! ### Rendering -/

/-- What is visited is in normal form for the branch that is nearest around it. -/
theorem Visit.Leads.normal {visit next : Visit} (leads : visit.Leads values next)
    (normal : visit.node.Normal (visit.around.head?.any (·.kind == .plural))) :
    next.node.Normal (next.around.head?.any (·.kind == .plural)) := by
  cases leads with
  | part member => exact normal.of_mem_parts _ member
  | content chosen =>
      obtain ⟨option, hoption, rfl⟩ := Branch.mem_of_content? chosen
      exact normal.of_mem_options option hoption

/-- **Where a number field is visited, the active number is that of the branch around it.** -/
theorem Node.number_of_mem_visits {node : Node} (normal : node.Normal false) {visit : Visit}
    (hvisit : visit ∈ node.visits values [] none) (hfield : visit.node = .numberField) :
    ∃ choice outer value n, visit.around = choice :: outer ∧ choice.kind = .plural ∧
      values[choice.name]? = some value ∧ value.pluralOperand? = some n ∧
      visit.number = some n := by
  have hnormal := node.forall_visits (fun _ _ leads => leads.normal) [] none normal visit hvisit
  have placed := node.isPlaced_visits visit hvisit
  rw [hfield] at hnormal
  have hplural := hnormal.inPlural_of_numberField
  cases haround : visit.around with
  | nil => simp [haround] at hplural
  | cons choice outer =>
      have hkind : choice.kind = .plural := by simpa [haround] using hplural
      obtain ⟨value, n, hvalue, hn⟩ := placed.chosen choice (by simp [haround]) hkind
      refine ⟨choice, outer, value, n, rfl, hkind, hvalue, hn, ?_⟩
      rw [placed.number, haround, List.find?_cons_of_pos (by simp [hkind])]
      simp [Values.operand?, hvalue, hn]

/-! ### Compiling -/

namespace Node

mutual

/-- The outline of a tree with every number field as the number of the branch that is nearest
around it, of whatever kind; `nearest` is the name of that branch.  No number field is text. -/
def nearOutline (nearest : Option String) : Node → List Part
  | .sequence parts => nearPartsOutline nearest parts
  | .literal text => Part.ofText text
  | .numberField => (nearest.map Part.number).toList
  | .placeholder name => [.value name]
  | .branch choice =>
    [.choice choice.kind choice.name (nearOptionOutlines (some choice.name) choice.options)]

/-- The outline of parts, one after the other. -/
def nearPartsOutline (nearest : Option String) : List Node → List Part
  | [] => []
  | part :: rest => part.nearOutline nearest ++ nearPartsOutline nearest rest

/-- The outlines of the contents of options, with their keys. -/
def nearOptionOutlines (nearest : Option String) :
    List (String × Node) → List (String × List Part)
  | [] => []
  | (key, content) :: rest =>
    (key, content.nearOutline nearest) :: nearOptionOutlines nearest rest

end

/-- In normal form, the number that is handed on to a number field is that of the nearest
branch. -/
theorem outline_eq_nearOutline (node : Node) : ∀ {inPlural : Bool} (number nearest : Option String),
    node.Normal inPlural → (inPlural = true → ∃ name, number = some name ∧ nearest = some name) →
      node.outline number = node.nearOutline nearest := by
  induction node using treeInduction with
  | sequence parts ih =>
      intro inPlural number nearest normal h
      have hparts := normal.of_mem_parts
      clear normal
      rw [outline, nearOutline]
      induction parts with
      | nil => rfl
      | cons part rest ihRest =>
          rw [List.forall_mem_cons] at ih hparts
          rw [partsOutline, nearPartsOutline, ih.1 number nearest hparts.1 h,
            ihRest ih.2 hparts.2]
  | literal text =>
      intro inPlural number nearest _ _
      rw [outline, nearOutline]
  | numberField =>
      intro inPlural number nearest normal h
      obtain ⟨name, rfl, rfl⟩ := h normal.inPlural_of_numberField
      rfl
  | placeholder name =>
      intro inPlural number nearest _ _
      rw [outline, nearOutline]
  | branch choice ih =>
      intro inPlural number nearest normal _
      have hcontents := normal.of_mem_options
      have hinside : ∀ inside : Option String,
          (choice.kind = .plural → inside = some choice.name) →
          optionOutlines inside choice.options
            = nearOptionOutlines (some choice.name) choice.options := by
        intro inside hname
        have hpassed : (choice.kind == BranchKind.plural) = true →
            ∃ name, inside = some name ∧ some choice.name = some name :=
          fun hkind => ⟨choice.name, hname (by simpa using hkind), rfl⟩
        generalize choice.options = options at ih hcontents
        induction options with
        | nil => rfl
        | cons option rest ihRest =>
            obtain ⟨key, content⟩ := option
            rw [List.forall_mem_cons] at ih hcontents
            rw [optionOutlines, nearOptionOutlines,
              ih.1 inside (some choice.name) hcontents.1 hpassed, ihRest ih.2 hcontents.2]
      rw [outline, nearOutline]
      cases hkind : choice.kind with
      | plural => rw [hinside (some choice.name) fun _ => rfl]
      | select => rw [hinside number (by simp [hkind])]

end Node

/-- The nearest arm around a place is one for a branch of the given kind and name. -/
def CodePlace.IsInArm (place : CodePlace) (kind : BranchKind) (name : String) : Prop :=
  ∃ parameter, place.around.find? Layer.isArm = some (.arm kind name parameter)

namespace Code

/-- **A call for a number names the plural branch in whose arm it stands.** -/
theorem isInArm_of_mem_walk {node : Node} (normal : node.Normal false) (picking : Picking) :
    ∀ place ∈ (node.compile names).walk picking [], ∀ v name,
      place.action = .call (.number v name) → v = names.values ∧ place.IsInArm .plural name := by
  have compiles : Compiles names picking
      (fun node number around => ∃ inPlural, node.Normal inPlural ∧ (inPlural = true →
        ∃ name parameter, number = some name ∧
          around.find? Layer.isArm = some (.arm .plural name parameter)))
      (fun place => ∀ v name, place.action = .call (.number v name) →
        v = names.values ∧ place.IsInArm .plural name) :=
    { part := by
        rintro parts number around ⟨inPlural, hnormal, harm⟩ part hpart
        exact ⟨inPlural, hnormal.of_mem_parts part hpart, harm⟩
      block := by
        rintro parts number around ⟨inPlural, hnormal, harm⟩
        exact ⟨inPlural, hnormal, by simpa [Layer.isArm] using harm⟩
      content := by
        rintro choice number around ⟨inPlural, hnormal, -⟩ content hcontent
        obtain ⟨option, hoption, rfl⟩ := picking.exists_option hcontent
        refine ⟨_, hnormal.of_mem_options option hoption, fun hkind => ?_⟩
        have hplural : choice.kind = .plural := by simpa using hkind
        exact ⟨choice.name, armParameter names option.2,
          by simp [optionNumber, hplural], by simp [Layer.isArm, hplural]⟩
      text := by simp
      placeholder := by simp
      numberField := by
        rintro name around ⟨inPlural, hnormal, harm⟩ v other haction
        obtain ⟨nearest, parameter, hname, hfind⟩ := harm hnormal.inPlural_of_numberField
        obtain rfl := Option.some.inj hname
        injection haction with hcall
        injection hcall with hvalues hother
        obtain rfl := hother
        exact ⟨hvalues.symm, parameter, hfind⟩
      branch := by simp
      lazy := by simp
      append := by simp
      giveBack := by simp }
  exact compiles.forall_walk node none [] ⟨false, normal, by simp⟩

/-! ### Running -/

/-- **Where code comes to a call for a number, every plural branch around has a number.** -/
theorem operand_of_mem_steps (node : Node) : ∀ place ∈ (node.compile names).steps values,
    ∀ v other, place.action = .call (.number v other) →
      ∀ name parameter, .arm .plural name parameter ∈ place.around →
        ∃ value n, values[name]? = some value ∧ value.pluralOperand? = some n := by
  have compiles : Compiles names (.chosen values)
      (fun _ _ around => ∀ name parameter, .arm .plural name parameter ∈ around →
        ∃ value n, values[name]? = some value ∧ value.pluralOperand? = some n)
      (fun place => ∀ v other, place.action = .call (.number v other) →
        ∀ name parameter, .arm .plural name parameter ∈ place.around →
          ∃ value n, values[name]? = some value ∧ value.pluralOperand? = some n) :=
    { part := fun known _ _ => known
      block := by
        intro parts number around known
        simpa using known
      content := by
        intro choice number around known content hcontent name parameter hmem
        rcases List.mem_cons.mp hmem with heq | hmem
        · -- The arm is entered only because the branch chose its content.
          injection heq with hkind hname
          rw [hname]
          exact Branch.operand?_of_content? (Picking.mem_chosen.mp hcontent) hkind.symm
        · exact known name parameter hmem
      text := by simp
      placeholder := by simp
      numberField := fun known _ _ _ => known
      branch := by simp
      lazy := by simp
      append := by simp
      giveBack := by simp }
  exact compiles.forall_walk node none [] (by simp)

/-- **What a call for a number puts out** when code comes to it: the number of the branch in whose
arm it stands. -/
theorem number_of_mem_steps {node : Node} (normal : node.Normal false) {place : CodePlace}
    (hplace : place ∈ (node.compile names).steps values) {v name : String}
    (haction : place.action = .call (.number v name)) :
    ∃ value n, values[name]? = some value ∧ value.pluralOperand? = some n ∧
      place.text values = n.display := by
  obtain ⟨-, parameter, hfind⟩ := isInArm_of_mem_walk normal _ place hplace v name haction
  obtain ⟨value, n, hvalue, hn⟩ := operand_of_mem_steps node place hplace v name haction name
    parameter (List.mem_of_find?_eq_some hfind)
  refine ⟨value, n, hvalue, hn, ?_⟩
  simp [CodePlace.text, haction, Resolve.number, hvalue, hn]

end Code

/-! ### Parsed templates -/

/-- **A template whose number fields show the number of the branch that they stand in.** -/
structure ShowsNumbers (template : String) (node : Node) : Prop where
  /-- Rendering is what is visited. -/
  told : ∀ values : Values, Says (fun _ sink => interpret sink values template)
    (Visit.textOf values (node.visits values [] none))
    (Visit.reportsOf values (node.visits values [] none))
  /-- Where a number field is visited, the nearest branch is a plural one, and the active number
  is there and is the number of its value. -/
  visited : ∀ values : Values, ∀ visit ∈ node.visits values [] none, visit.node = .numberField →
    ∃ choice outer value n, visit.around = choice :: outer ∧ choice.kind = .plural ∧
      values[choice.name]? = some value ∧ value.pluralOperand? = some n ∧ visit.number = some n
  /-- In code every number field is a call with the name of the nearest branch, and none is
  text. -/
  compiled : ∀ names : CodeNames, (node.compile names).outline = node.nearOutline none
  /-- These calls ask the values, and they stand in arms of plural branches on the name. -/
  called : ∀ names : CodeNames, ∀ place ∈ (node.compile names).places, ∀ v name,
    place.action = .call (.number v name) → v = names.values ∧ place.IsInArm .plural name
  /-- The code runs, and running it is what it comes to. -/
  runs : ∀ (names : CodeNames) (values : Values) {σ : Type} (sink : Sink σ), names.Distinct →
    ∃ run, (node.compile names).run? sink values (Scope.ofParameters names.values names.sink)
        = some run ∧
      SaysTo sink run (CodePlace.textOf values ((node.compile names).steps values))
        (CodePlace.reportsOf values ((node.compile names).steps values))
  /-- A call that code comes to puts out the number of the branch in whose arm it stands. -/
  shown : ∀ (names : CodeNames) (values : Values),
    ∀ place ∈ (node.compile names).steps values, ∀ v name,
      place.action = .call (.number v name) → place.IsInArm .plural name ∧
        ∃ value n, values[name]? = some value ∧ value.pluralOperand? = some n ∧
          place.text values = n.display ∧ place.text values ≠ "\x7b#\x7d"

/--
**In a parsed template no number field is without a number.**

Neither rendering nor compiled code ever gets to the text that stands in for one.
-/
theorem parse_showsNumbers {template : String} {node : Node} (h : parse template = .ok node) :
    ShowsNumbers template node := by
  obtain ⟨pieces, sequence, hnode⟩ := Parser.template_of_parseTokens h
  have normal : node.Normal false := by
    rw [hnode]
    exact Piece.assemble_normal (sequence.normal fun _ => isWord_of_mem_lex)
  constructor
  case told =>
    intro values σ sink
    unfold interpret
    rw [h]
    exact node.says_visits sink [] none
  case visited =>
    intro values visit hvisit hfield
    exact Node.number_of_mem_visits normal hvisit hfield
  case compiled =>
    intro names
    rw [Node.compile, Code.ofNode_outline]
    exact node.outline_eq_nearOutline none none normal (by simp)
  case called =>
    intro names
    exact Code.isInArm_of_mem_walk normal .all
  case runs =>
    intro names values σ sink distinct
    have hrun : (node.compile names).run? sink values
        (Scope.ofParameters names.values names.sink) = some (node.render sink values) :=
      Code.ofNode_run distinct node none _ (Scope.Serves.ofParameters distinct)
    exact ⟨_, hrun, (node.compile names).saysTo_walk [] _ _ hrun⟩
  case shown =>
    intro names values place hplace v name haction
    have harm := Code.isInArm_of_mem_walk normal (.chosen values) place hplace v name haction
    obtain ⟨value, n, hvalue, hn, htext⟩ := Code.number_of_mem_steps normal hplace haction
    refine ⟨harm.2, value, n, hvalue, hn, htext, ?_⟩
    rw [htext]
    exact n.display_ne_numberField

/-- Number fields before and behind a select branch that has a plural branch of its own. -/
theorem parse_showsNumbers_nested :
    let inner : Node := .branch
      { name := "b", kind := .plural, options := [("w", .numberField)] }
    let middle : Node := .branch
      { name := "s", kind := .select, options := [("y", .literal "#"), ("z", inner)] }
    let outer : Node := .branch
      { name := "a", kind := .plural, options :=
          [("x", .sequence [.numberField, middle, .numberField])] }
    let template :=
      "\x7ba,plural,x\x7b#\x7bs,select,y\x7b#\x7d z\x7b\x7bb,plural,w\x7b#\x7d\x7d\x7d\x7d#\x7d\x7d"
    parse template = .ok outer ∧ ShowsNumbers template outer := by
  intro inner middle outer
  exact ⟨rfl, parse_showsNumbers rfl⟩

end MessageTemplate
