/-
Supplied text is put out as it is.

A value that is a text may have anything in it that would be syntax in a template.  Where a
placeholder asks for it, it comes out as it is, and nothing else can happen to it as long as no
branch reads it.  So a rendering that is supplied with any text puts that text between segments
that are always the same.

This is told from the visits.  Which nodes are visited is decided by the values of branches
(`Node.visits_congr`), so it does not depend on the text.  Each visit puts out the text or what
it always puts out (`Visit.piece?`), and reports what it always reports.  Compiled code says what
rendering says.
-/
import MessageTemplate.Proofs.Compiled.Equivalence
import MessageTemplate.Proofs.Compiled.Escaping
import MessageTemplate.Proofs.Reports
import Mathlib.Data.List.Basic

namespace MessageTemplate

open Visit (textOf reportsOf)
open Literal (fixedTexts fixedTexts_ne_nil fixedTexts_hole fixedTexts_text)

variable {values others : Values} {name : String}

/-- Values with a text under a name. -/
def Values.supply (values : Values) (name text : String) : Values :=
  values.insert name (.string text)

@[simp] theorem Values.getElem?_supply_self (text : String) :
    (values.supply name text)[name]? = some (.string text) := by
  simp [supply]

@[simp] theorem Values.getElem?_supply_of_ne {other : String} (h : other ≠ name) (text : String) :
    (values.supply name text)[other]? = values[other]? := by
  rw [supply, Std.TreeMap.getElem?_insert, if_neg]
  simpa using h.symm

/-! ### Segments -/

/-- A text between the fixed texts stands for every hole. -/
theorem intercalate_fixedTexts (text : String) (pieces : List (Option String)) :
    text.intercalate (fixedTexts pieces) = String.join (pieces.map (·.getD text)) := by
  induction pieces with
  | nil => rfl
  | cons piece rest ih =>
      rw [List.map_cons, String.join_cons, ← ih]
      cases piece with
      | none =>
          rw [fixedTexts_hole, String.intercalate_cons_of_ne_nil (fixedTexts_ne_nil rest),
            String.empty_append]
          rfl
      | some fixed =>
          rw [fixedTexts_text]
          obtain ⟨first, texts, hfixed⟩ := List.exists_cons_of_ne_nil (fixedTexts_ne_nil rest)
          rw [hfixed]
          cases texts with
          | nil => simp
          | cons next texts => simp [String.append_assoc]

/-! ### Which nodes are visited -/

/-- **Which nodes are visited is decided by the values of branches.** -/
theorem Node.visits_congr {tree : Node}
    (agree : ∀ choice ∈ tree.branches, values[choice.name]? = others[choice.name]?)
    (node : Node) : ∀ (around : List (Branch Node)) (number : Option Binary64),
      node.IsWithin tree → node.visits values around number = node.visits others around number := by
  induction node using treeInduction with
  | sequence parts ih =>
      intro around number within
      have hparts := fun part (hpart : part ∈ parts) => within.part hpart
      -- The whole sequence need not be known in the induction on its parts.
      clear within
      rw [visits, visits]
      congr 1
      induction parts with
      | nil => rfl
      | cons part rest ihRest =>
          rw [List.forall_mem_cons] at ih hparts
          rw [partVisits, partVisits, ih.1 around number hparts.1, ihRest ih.2 hparts.2]
  | literal text => exact fun _ _ _ => rfl
  | numberField => exact fun _ _ _ => rfl
  | placeholder name => exact fun _ _ _ => rfl
  | branch choice ih =>
      intro around number within
      have hvalue := agree choice (within.branches choice List.mem_cons_self)
      rw [visits_branch, visits_branch, Branch.content?_congr hvalue,
        Branch.numberInside_congr hvalue]
      cases hcontent : choice.content? others with
      | none => rfl
      | some content =>
          obtain ⟨option, hoption, rfl⟩ := Branch.mem_of_content? hcontent
          rw [Option.map_some, Option.map_some, ih option hoption _ _ (within.content hoption)]

/-! ### What a visit does with the text -/

namespace Visit

/-- Whether a visit asks for the value of a name, to put it out. -/
def asksFor (name : String) (visit : Visit) : Bool :=
  match visit.node with
  | .placeholder other => other == name
  | _ => false

/-- What a visit puts out, with a hole for the value of a name. -/
def piece? (name : String) (values : Values) (visit : Visit) : Option (Option String) :=
  if visit.asksFor name then some none
  else (visit.shown? values).map fun shown => some shown.display

/-- A visit puts out the text that is supplied, or what it puts out in any case. -/
theorem shown?_supply {visit : Visit}
    (notBranch : ∀ choice, visit.node = .branch choice → choice.name ≠ name) (text : String) :
    (visit.shown? (values.supply name text)).map Shown.display
      = (visit.piece? name values).map (·.getD text) := by
  unfold piece? shown? asksFor
  cases hnode : visit.node with
  | sequence parts => rfl
  | literal text => rfl
  | numberField => rfl
  | placeholder other =>
      by_cases hname : other = name
      · simp [hname, Shown.display, Value.display]
      · simp [hname]
  | branch choice =>
      have hvalue : (values.supply name text)[choice.name]? = values[choice.name]? :=
        Values.getElem?_supply_of_ne (notBranch choice hnode) text
      dsimp only
      rw [Branch.content?_congr hvalue]
      cases choice.content? values <;> simp

/-- A visit reports the same whatever text is supplied. -/
theorem report?_supply {visit : Visit}
    (notBranch : ∀ choice, visit.node = .branch choice → choice.name ≠ name)
    (text other : String) :
    visit.report? (values.supply name text) = visit.report? (values.supply name other) := by
  unfold report?
  cases hnode : visit.node with
  | sequence parts => rfl
  | literal text => rfl
  | numberField => rfl
  | placeholder asked =>
      by_cases hname : asked = name
      · simp [hname]
      · simp [hname]
  | branch choice =>
      refine Branch.problem?_congr ?_
      rw [Values.getElem?_supply_of_ne (notBranch choice hnode),
        Values.getElem?_supply_of_ne (notBranch choice hnode)]

/-- No branch that is visited reads the name. -/
def NoBranchOn (name : String) (visits : List Visit) : Prop :=
  ∀ visit ∈ visits, ∀ choice, visit.node = .branch choice → choice.name ≠ name

/-- Visits put out the text that is supplied between texts that are always the same. -/
theorem textOf_supply {visits : List Visit} (notBranch : NoBranchOn name visits) (text : String) :
    textOf (values.supply name text) visits
      = text.intercalate (fixedTexts (visits.filterMap (·.piece? name values))) := by
  rw [intercalate_fixedTexts, textOf, List.map_filterMap, List.map_filterMap]
  congr 1
  exact List.filterMap_congr fun visit hvisit => shown?_supply (notBranch visit hvisit) text

/-- Visits report the same whatever text is supplied. -/
theorem reportsOf_supply {visits : List Visit} (notBranch : NoBranchOn name visits)
    (text other : String) :
    reportsOf (values.supply name text) visits = reportsOf (values.supply name other) visits :=
  List.filterMap_congr fun visit hvisit => report?_supply (notBranch visit hvisit) text other

end Visit

/-! ### Templates -/

/-- **A tree that puts out a text as it is**: between segments that are always the same, and with
the same diagnostics. -/
structure Node.PutsOut (node : Node) (values : Values) (name : String) (segments : List String)
    (diagnostics : List Diagnostic) : Prop where
  nonempty : segments ≠ []
  rendered : ∀ text : String, Says (fun _ sink => node.render sink (values.supply name text))
    (text.intercalate segments) diagnostics
  compiled : ∀ (text : String) (names : CodeNames), names.Distinct → ∀ {σ : Type} (sink : Sink σ),
    ∃ run, (node.compile names).run? sink (values.supply name text)
        (Scope.ofParameters names.values names.sink) = some run ∧
      SaysTo sink run (text.intercalate segments) diagnostics

/--
**Supplied text is put out as it is**, by every tree without a branch on the name under which it is
supplied.

The segments and the diagnostics do not depend on the text, and they are the same for code.
-/
theorem render_supply (node : Node) (values : Values) (name : String)
    (notBranch : ∀ choice ∈ node.branches, choice.name ≠ name) :
    ∃ segments diagnostics, node.PutsOut values name segments diagnostics := by
  let visits := node.visits values [] none
  have hvisits : ∀ text, node.visits (values.supply name text) [] none = visits := by
    intro text
    have hvalues : ∀ choice ∈ node.branches,
        (values.supply name text)[choice.name]? = values[choice.name]? :=
      fun choice hchoice => Values.getElem?_supply_of_ne (notBranch choice hchoice) text
    exact Node.visits_congr hvalues node [] none (.refl node)
  have hbranch : Visit.NoBranchOn name visits := by
    intro visit hvisit choice hnode
    have within : visit.node.IsWithin node :=
      node.forall_visits (fun _ _ leads => leads.isWithin) [] none (.refl node) visit hvisit
    rw [hnode] at within
    exact notBranch choice (within.branches choice List.mem_cons_self)
  let segments := fixedTexts (visits.filterMap (·.piece? name values))
  let diagnostics := reportsOf (values.supply name "") visits
  have hsays : ∀ (text : String) {σ : Type} (sink : Sink σ),
      SaysTo sink (node.render sink (values.supply name text)) (text.intercalate segments)
        diagnostics := by
    intro text σ sink
    have h : SaysTo sink (node.render sink (values.supply name text))
        (textOf (values.supply name text) (node.visits (values.supply name text) [] none))
        (reportsOf (values.supply name text) (node.visits (values.supply name text) [] none)) :=
      node.says_visits sink [] none
    rw [hvisits, Visit.textOf_supply hbranch, Visit.reportsOf_supply hbranch text ""] at h
    exact h
  refine ⟨segments, diagnostics, fixedTexts_ne_nil _, fun text _ sink => hsays text sink, ?_⟩
  intro text names distinct σ sink
  exact ⟨_, Code.ofNode_run distinct node none _ (Scope.Serves.ofParameters distinct),
    hsays text sink⟩

/-- A text before, in and behind the options of nested branches. -/
theorem render_supply_nested :
    let inner : Node := .branch
      { name := "s", kind := .select, options :=
          [("y", .placeholder "x"), ("other", .sequence [.literal "\x7b", .placeholder "x"])] }
    let node : Node := .sequence
      [.placeholder "x", .branch
        { name := "n", kind := .plural, options :=
            [("one", .sequence [.numberField, inner]), ("other", .placeholder "z")] },
        .literal "\"\x7d", .placeholder "x"]
    (∀ choice ∈ node.branches, choice.name ≠ "x") ∧
      ∃ segments diagnostics,
        node.PutsOut ((∅ : Values).insert "n" (.string "1")) "x" segments diagnostics := by
  intro inner node
  have notBranch : ∀ choice ∈ node.branches, choice.name ≠ "x" := by
    simp [node, inner, Node.branches, Node.partBranches, Node.optionBranches]
  exact ⟨notBranch, render_supply node _ "x" notBranch⟩

end MessageTemplate
