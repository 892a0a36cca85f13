/-
Where rendering comes to.

Rendering a tree visits some of its nodes: all parts of a sequence and, of a branch, the
content that it puts out.  `Node.visits` lists these visits in order, each with the branches
around the node and the active number.  What a visit puts out and reports by itself is said
from the visit alone (`Visit.shown?`, `Visit.report?`), and a rendering says exactly what its
visits say, one after another (`Node.says_visits`).  So what is to be said of every
rendering is said of every visit.

A visit leads to others, and everything that is visited is reached so from the first.  What
holds of the first visit and is passed on therefore holds of all (`Node.forall_visits`).  That
is how the active number is told from the branches around: it is the number of the nearest
plural branch (`Node.isPlaced_visits`).
-/
import MessageTemplate.Proofs.Induction
import MessageTemplate.Proofs.Rendering

namespace MessageTemplate

/-- A node that rendering comes to. -/
structure Visit where
  node : Node
  /-- The branches around the node, the innermost first. -/
  around : List (Branch Node)
  /-- The active number. -/
  number : Option Binary64

/-- What one node puts out. -/
inductive Shown where
  /-- Text of the template. -/
  | text (text : String)
  /-- The text of a value. -/
  | value (value : Value)
  /-- The active number. -/
  | number (n : Binary64)
  /-- The stand-in for the active number where there is none. -/
  | noNumber
  /-- The stand-in for a value, or for a branch on it. -/
  | standIn (name : String)

/-- The text of what a node puts out. -/
def Shown.display : Shown → String
  | text t => t
  | value v => v.display
  | number n => n.display
  | noNumber => numberFieldText none
  | standIn name => MessageTemplate.standIn name

namespace Visit

variable (values : Values)

/-- What a node puts out by itself; what its parts or contents put out is not counted. -/
def shown? (visit : Visit) : Option Shown :=
  match visit.node with
  | .sequence _ => none
  | .literal text => some (.text text)
  | .numberField => some (visit.number.elim .noNumber .number)
  | .placeholder name => some (values[name]?.elim (.standIn name) .value)
  | .branch choice => (choice.content? values).elim (some (.standIn choice.name)) fun _ => none

/-- What a node reports by itself. -/
def report? (visit : Visit) : Option Diagnostic :=
  match visit.node with
  | .placeholder name => values[name]?.elim (some (.missingValue name)) fun _ => none
  | .branch choice => choice.problem? values
  | _ => none

/-- The text that visits put out, one after another. -/
def textOf (visits : List Visit) : String :=
  String.join ((visits.filterMap (·.shown? values)).map Shown.display)

/-- What visits report, one after another. -/
def reportsOf (visits : List Visit) : List Diagnostic :=
  visits.filterMap (·.report? values)

variable {values}

theorem textOf_cons (visit : Visit) (visits : List Visit) :
    textOf values (visit :: visits)
      = ((visit.shown? values).elim "" Shown.display) ++ textOf values visits := by
  cases h : visit.shown? values <;> simp [textOf, h]

theorem reportsOf_cons (visit : Visit) (visits : List Visit) :
    reportsOf values (visit :: visits)
      = (visit.report? values).toList ++ reportsOf values visits := by
  cases h : visit.report? values <;> simp [reportsOf, h]

theorem textOf_append (visits others : List Visit) :
    textOf values (visits ++ others) = textOf values visits ++ textOf values others := by
  simp [textOf, String.join_append]

theorem reportsOf_append (visits others : List Visit) :
    reportsOf values (visits ++ others) = reportsOf values visits ++ reportsOf values others :=
  List.filterMap_append

end Visit

open Visit (textOf reportsOf)

section

variable (values : Values)

mutual

/-- What rendering a tree visits, given the branches around the tree and the active number. -/
def Node.visits : Node → List (Branch Node) → Option Binary64 → List Visit
  | .sequence parts, around, number =>
    { node := .sequence parts, around, number } :: partVisits parts around number
  | .literal text, around, number => [{ node := .literal text, around, number }]
  | .numberField, around, number => [{ node := .numberField, around, number }]
  | .placeholder name, around, number => [{ node := .placeholder name, around, number }]
  | .branch choice, around, number =>
    let contents : Branch (List Visit) :=
      { name := choice.name, kind := choice.kind,
        options := optionVisits choice.options (choice :: around)
          (choice.numberInside values number) }
    { node := .branch choice, around, number } :: (contents.content? values).getD []

/-- What rendering parts visits. -/
def Node.partVisits : List Node → List (Branch Node) → Option Binary64 → List Visit
  | [], _, _ => []
  | part :: rest, around, number =>
    part.visits around number ++ partVisits rest around number

/-- What rendering the content of each option would visit. -/
def Node.optionVisits :
    List (String × Node) → List (Branch Node) → Option Binary64 → List (String × List Visit)
  | [], _, _ => []
  | (key, content) :: rest, around, number =>
    (key, content.visits around number) :: optionVisits rest around number

end

end

/-! ### Only the content that is put out counts -/

variable {values : Values}

theorem Node.optionVisits_eq_map (options : List (String × Node)) (around : List (Branch Node))
    (number : Option Binary64) :
    optionVisits values options around number
      = options.map fun option => (option.1, option.2.visits values around number) := by
  induction options with
  | nil => rfl
  | cons option rest ih => rw [optionVisits, ih, List.map_cons]

theorem Node.visits_branch (choice : Branch Node) (around : List (Branch Node))
    (number : Option Binary64) :
    (Node.branch choice).visits values around number
      = { node := .branch choice, around, number } ::
        ((choice.content? values).map fun content =>
          content.visits values (choice :: around)
            (choice.numberInside values number)).getD [] := by
  rw [visits, optionVisits_eq_map, ← Branch.content?_mapContents]
  rfl

/-- Rendering a placeholder reports a value that is missing and shows one that is there. -/
theorem renderPlaceholder_eq {σ : Type} (sink : Sink σ) (name : String) :
    renderPlaceholder sink values name = do
      sink.warnIfAny (values[name]?.elim (some (.missingValue name)) fun _ => none)
      return values[name]?.elim (standIn name) Value.display := by
  unfold renderPlaceholder
  cases values[name]? <;> simp [Sink.warnIfAny]

theorem Node.optionRenderings_eq_map {σ : Type} (sink : Sink σ) (options : List (String × Node)) :
    optionRenderings sink values options
      = options.map fun option => (option.1, option.2.renderUnder sink values) := by
  induction options with
  | nil => rfl
  | cons option rest ih => rw [optionRenderings, ih, List.map_cons]

theorem Node.renderUnder_branch {σ : Type} (sink : Sink σ) (choice : Branch Node)
    (number : Option Binary64) :
    (Node.branch choice).renderUnder sink values number = do
      sink.warnIfAny (choice.problem? values)
      match choice.content? values with
      | some content => content.renderUnder sink values (choice.numberInside values number)
      | none => return standIn choice.name := by
  rw [renderUnder, optionRenderings_eq_map]
  refine (renderBranch_eq sink values
    (choice.mapContents fun content => content.renderUnder sink values) number).trans ?_
  rw [Branch.problem?_mapContents, Branch.content?_mapContents]
  cases choice.content? values <;> rfl

/-! ### A rendering says what its visits say -/

section

variable {σ : Type} (sink : Sink σ)

/-- Parts say what their visits say, if each of them does. -/
theorem Node.says_partVisits {parts : List Node}
    (h : ∀ part ∈ parts, ∀ (around : List (Branch Node)) (number : Option Binary64),
      SaysTo sink (part.renderUnder sink values number)
        (textOf values (part.visits values around number))
        (reportsOf values (part.visits values around number)))
    (around : List (Branch Node)) (number : Option Binary64) :
    SaysTo sink (renderParts sink values parts number)
      (textOf values (partVisits values parts around number))
      (reportsOf values (partVisits values parts around number)) := by
  induction parts with
  | nil =>
      rw [renderParts, partVisits]
      exact SaysTo.pure ""
  | cons part rest ih =>
      rw [List.forall_mem_cons] at h
      rw [renderParts, partVisits, Visit.textOf_append, Visit.reportsOf_append]
      exact (h.1 around number).append (ih h.2)

/-- **A rendering says what its visits say**, one after another. -/
theorem Node.says_visits (node : Node) : ∀ (around : List (Branch Node))
    (number : Option Binary64),
      SaysTo sink (node.renderUnder sink values number)
        (textOf values (node.visits values around number))
        (reportsOf values (node.visits values around number)) := by
  induction node using Node.treeInduction with
  | sequence parts ih =>
      intro around number
      rw [renderUnder, visits, Visit.textOf_cons, Visit.reportsOf_cons]
      simpa [Visit.shown?, Visit.report?] using says_partVisits sink ih around number
  | literal text =>
      intro around number
      rw [renderUnder, visits]
      simpa [textOf, reportsOf, Visit.shown?, Visit.report?, Shown.display]
        using SaysTo.pure text
  | numberField =>
      intro around number
      rw [renderUnder, visits]
      cases number <;>
        simpa [textOf, reportsOf, Visit.shown?, Visit.report?, Shown.display, numberFieldText]
          using SaysTo.pure _
  | placeholder name =>
      intro around number
      rw [renderUnder, visits, renderPlaceholder_eq, Visit.textOf_cons, Visit.reportsOf_cons]
      refine SaysTo.warnIfAny _ ?_
      cases hvalue : values[name]? <;>
        simpa [textOf, reportsOf, Visit.shown?, Shown.display, hvalue] using SaysTo.pure _
  | branch choice ih =>
      intro around number
      rw [renderUnder_branch, visits_branch, Visit.textOf_cons, Visit.reportsOf_cons]
      refine SaysTo.warnIfAny (choice.problem? values) ?_
      cases hcontent : choice.content? values with
      | none => simpa [textOf, reportsOf, Visit.shown?, Shown.display, hcontent]
          using SaysTo.pure (standIn choice.name)
      | some content =>
          obtain ⟨option, hoption, rfl⟩ := Branch.mem_of_content? hcontent
          simpa [Visit.shown?, hcontent] using ih option hoption (choice :: around)
            (choice.numberInside values number)

end

/-- **A template says something**, also one that does not parse. -/
theorem speaks_interpret (values : Values) (template : String) :
    Speaks fun _ sink => interpret sink values template := by
  unfold interpret
  cases parse template with
  | ok node => exact ⟨_, _, fun _ sink => node.says_visits sink [] none⟩
  | error error =>
      exact ⟨_, _, fun _ sink =>
        (SaysTo.pure template).warnIfAny (some (.invalidTemplate template error))⟩

/-! ### What is reached -/

/-- One visit leads to another: to a part, or to the content that a branch puts out. -/
inductive Visit.Leads (values : Values) : Visit → Visit → Prop
  | part {parts : List Node} {around : List (Branch Node)} {number : Option Binary64}
      {part : Node} (member : part ∈ parts) :
      Leads values ⟨.sequence parts, around, number⟩ ⟨part, around, number⟩
  | content {choice : Branch Node} {around : List (Branch Node)} {number : Option Binary64}
      {content : Node} (chosen : choice.content? values = some content) :
      Leads values ⟨.branch choice, around, number⟩
        ⟨content, choice :: around, choice.numberInside values number⟩

theorem Node.mem_partVisits {parts : List Node} {around : List (Branch Node)}
    {number : Option Binary64} {visit : Visit} (h : visit ∈ partVisits values parts around number) :
    ∃ part ∈ parts, visit ∈ part.visits values around number := by
  induction parts with
  | nil => simp [partVisits] at h
  | cons part rest ih =>
      rw [partVisits, List.mem_append] at h
      rcases h with hpart | hrest
      · exact ⟨part, List.mem_cons_self, hpart⟩
      · obtain ⟨other, hother, hvisit⟩ := ih hrest
        exact ⟨other, List.mem_cons_of_mem _ hother, hvisit⟩

/-- **What holds of a visit and is passed on holds of all that follow from it.** -/
theorem Node.forall_visits {P : Visit → Prop}
    (passes : ∀ visit next, visit.Leads values next → P visit → P next) (node : Node) :
    ∀ (around : List (Branch Node)) (number : Option Binary64),
      P ⟨node, around, number⟩ → ∀ visit ∈ node.visits values around number, P visit := by
  induction node using Node.treeInduction with
  | sequence parts ih =>
      intro around number h
      rw [visits, List.forall_mem_cons]
      refine ⟨h, fun visit hvisit => ?_⟩
      obtain ⟨part, hpart, hvisit⟩ := mem_partVisits hvisit
      exact ih part hpart around number (passes _ _ (.part hpart) h) visit hvisit
  | literal text => exact fun around number h => by simpa [visits] using h
  | numberField => exact fun around number h => by simpa [visits] using h
  | placeholder name => exact fun around number h => by simpa [visits] using h
  | branch choice ih =>
      intro around number h
      rw [visits_branch, List.forall_mem_cons]
      refine ⟨h, ?_⟩
      cases hcontent : choice.content? values with
      | none => simp
      | some content =>
          obtain ⟨option, hoption, rfl⟩ := Branch.mem_of_content? hcontent
          exact ih option hoption _ _ (passes _ _ (.content hcontent) h)

/-! ### The active number -/

/-- **The active number is that of the nearest plural branch**, and every plural branch
around a visit has a number. -/
structure Visit.IsPlaced (values : Values) (visit : Visit) : Prop where
  number : visit.number
    = (visit.around.find? (·.kind = .plural)).bind fun choice => values.operand? choice.name
  chosen : ∀ choice ∈ visit.around, choice.kind = .plural →
    ∃ value n, values[choice.name]? = some value ∧ value.pluralOperand? = some n

theorem Visit.Leads.isPlaced {visit next : Visit} (leads : visit.Leads values next)
    (placed : visit.IsPlaced values) : next.IsPlaced values := by
  cases leads with
  | part => exact ⟨placed.number, placed.chosen⟩
  | @content choice around number content hcontent =>
      constructor
      · cases hkind : choice.kind with
        | plural => simp [Branch.numberInside, hkind]
        | select => simpa [Branch.numberInside, hkind] using placed.number
      · rw [List.forall_mem_cons]
        exact ⟨Branch.operand?_of_content? hcontent, placed.chosen⟩

theorem Node.isPlaced_visits (node : Node) :
    ∀ visit ∈ node.visits values [] none, visit.IsPlaced values :=
  node.forall_visits (fun _ _ leads => leads.isPlaced) [] none ⟨rfl, by simp⟩

end MessageTemplate
