/-
Reports have reasons, and stand-ins have reports.

What a rendering reports and puts out is what its visits report and put out.  A visit of a
placeholder or a branch reports once if the value or the option is of no use, and not at all
otherwise.  A stand-in for a name comes with such a report.  The converse fails in one case: a
select branch without its value reports that and puts out `other`.

When nothing is reported, no stand-in for a name is left, and the output is made of text of
the template, values, numbers of plural branches, and the stand-in for a number where no
plural branch is around.
-/
import MessageTemplate.Proofs.Names
import MessageTemplate.Proofs.Visits

namespace MessageTemplate

open Visit (textOf reportsOf)

variable {values : Values}

/-- **A report with a reason** in the tree and the values. -/
inductive Justified (node : Node) (values : Values) : Diagnostic → Prop
  | missingValue {name : String} (listed : name ∈ node.valueNames)
      (absent : values[name]? = none) : Justified node values (.missingValue name)
  | notNumeric {choice : Branch Node} {value : Value} (occurs : choice ∈ node.branches)
      (plural : choice.kind = .plural) (present : values[choice.name]? = some value)
      (noNumber : value.pluralOperand? = none) :
      Justified node values (.notNumeric choice.name value.display)
  | missingOption {choice : Branch Node} {value : Value} {key : String}
      (occurs : choice ∈ node.branches) (present : values[choice.name]? = some value)
      (chooses : choice.key? value = some key) (noOption : choice.option? key = none)
      (noOther : choice.option? otherKey = none) :
      Justified node values (.missingOption choice.name key)

/-- The name of the value that a report of a rendering is about. -/
def Diagnostic.valueName? : Diagnostic → Option String
  | missingValue name => some name
  | notNumeric name _ => some name
  | missingOption name _ => some name
  | _ => none

namespace Visit

/-- A visit of a placeholder or a branch whose value or option is of no use. -/
def Fails (values : Values) (visit : Visit) : Prop :=
  match visit.node with
  | .placeholder name => values[name]? = none
  | .branch choice => ¬choice.Usable values
  | _ => False

/-- A visit of a select branch that has no value and puts out `other`. -/
def TakesOther (values : Values) (visit : Visit) : Prop :=
  ∃ choice content, visit.node = .branch choice ∧ choice.kind = .select ∧
    values[choice.name]? = none ∧ choice.option? otherKey = some content

/-- What a visit puts out when nothing is wrong. -/
inductive Shows (values : Values) (visit : Visit) : Shown → Prop
  | text {text : String} (here : visit.node = .literal text) : Shows values visit (.text text)
  | value {name : String} {value : Value} (here : visit.node = .placeholder name)
      (present : values[name]? = some value) : Shows values visit (.value value)
  | number {choice : Branch Node} {value : Value} {n : Binary64}
      (here : visit.node = .numberField)
      (nearest : visit.around.find? (·.kind = .plural) = some choice)
      (present : values[choice.name]? = some value) (operand : value.pluralOperand? = some n) :
      Shows values visit (.number n)
  | noNumber (here : visit.node = .numberField)
      (outside : ∀ choice ∈ visit.around, choice.kind ≠ .plural) : Shows values visit .noNumber

end Visit

/-- **An account of a rendering**, visit by visit. -/
structure Accounts (node : Node) (values : Values) (visits : List Visit) : Prop where
  /-- The rendering puts out and reports what the visits do, in order. -/
  told : Says (fun _ sink => node.render sink values) (textOf values visits)
    (reportsOf values visits)
  /-- Every report has a reason. -/
  justified : ∀ diagnostic ∈ reportsOf values visits, Justified node values diagnostic
  /-- A visit has a report of its own exactly if it fails. -/
  reported : ∀ visit ∈ visits,
    (∃ diagnostic, visit.report? values = some diagnostic) ↔ visit.Fails values
  /-- A stand-in for a name comes with a report about that name. -/
  standsIn : ∀ visit ∈ visits, ∀ name, visit.shown? values = some (.standIn name) →
    ∃ diagnostic, visit.report? values = some diagnostic ∧ diagnostic.valueName? = some name
  /-- A report comes with a stand-in, unless `other` is put out in place of it. -/
  replaced : ∀ visit ∈ visits, ∀ diagnostic, visit.report? values = some diagnostic →
    (∃ name, visit.shown? values = some (.standIn name)) ∨ visit.TakesOther values
  /-- Without a report, everything that is put out is what it should be. -/
  clean : reportsOf values visits = [] → ∀ visit ∈ visits, ∀ shown,
    visit.shown? values = some shown → visit.Shows values shown

/-! ### One visit -/

namespace Visit

variable {visit : Visit}

/-- A visit of a node of a tree reports nothing without a reason in the tree. -/
theorem justified_of_report? {tree : Node} (within : visit.node.IsWithin tree)
    {diagnostic : Diagnostic} (h : visit.report? values = some diagnostic) :
    Justified tree values diagnostic := by
  obtain ⟨node, around, number⟩ := visit
  cases node with
  | sequence parts => simp [report?] at h
  | literal text => simp [report?] at h
  | numberField => simp [report?] at h
  | placeholder name =>
      have hlisted : name ∈ tree.valueNames :=
        Node.mem_valueNames_iff.mpr (within.names name (by simp [Node.occurringNames]))
      cases hvalue : values[name]? with
      | some value => simp [report?, hvalue] at h
      | none =>
          simp only [report?, hvalue, Option.elim_none, Option.some.injEq] at h
          obtain rfl := h
          exact .missingValue hlisted hvalue
  | branch choice =>
      have hlisted : choice.name ∈ tree.valueNames :=
        Node.mem_valueNames_iff.mpr (within.names _ (by simp [Node.occurringNames]))
      have hoccurs : choice ∈ tree.branches :=
        within.branches choice (by simp [Node.branches])
      rcases Branch.problem?_cases h with ⟨habsent, rfl⟩ | ⟨value, hvalue, hproblem⟩
      · exact .missingValue hlisted habsent
      · rcases hproblem with ⟨hkind, hnumber, rfl⟩ | ⟨key, hkey, hoption, hother, rfl⟩
        · exact .notNumeric hoccurs hkind hvalue hnumber
        · exact .missingOption hoccurs hvalue hkey hoption hother

theorem exists_report?_iff :
    (∃ diagnostic, visit.report? values = some diagnostic) ↔ visit.Fails values := by
  obtain ⟨node, around, number⟩ := visit
  cases node with
  | sequence parts => simp [report?, Fails]
  | literal text => simp [report?, Fails]
  | numberField => simp [report?, Fails]
  | placeholder name => cases hvalue : values[name]? <;> simp [report?, Fails, hvalue]
  | branch choice =>
      change (∃ diagnostic, choice.problem? values = some diagnostic) ↔ ¬choice.Usable values
      rw [← Branch.problem?_eq_none_iff, ← Option.isSome_iff_exists, ← ne_eq,
        Option.isSome_iff_ne_none]

theorem report?_of_standIn {name : String} (h : visit.shown? values = some (.standIn name)) :
    ∃ diagnostic, visit.report? values = some diagnostic ∧
      diagnostic.valueName? = some name := by
  obtain ⟨node, around, number⟩ := visit
  cases node with
  | sequence parts => simp [shown?] at h
  | literal text => simp [shown?] at h
  | numberField => cases number <;> simp [shown?] at h
  | placeholder other =>
      cases hvalue : values[other]? with
      | some value => simp [shown?, hvalue] at h
      | none =>
          simp only [shown?, hvalue, Option.elim_none, Option.some.injEq, Shown.standIn.injEq] at h
          exact ⟨.missingValue other, by simp [report?, hvalue], by rw [← h]; rfl⟩
  | branch choice =>
      cases hcontent : choice.content? values with
      | some content => simp [shown?, hcontent] at h
      | none =>
          simp only [shown?, hcontent, Option.elim_none, Option.some.injEq,
            Shown.standIn.injEq] at h
          have hunusable : ¬choice.Usable values := by
            intro husable
            obtain ⟨content, hsome⟩ := husable.content?
            simp [hcontent] at hsome
          rw [← Branch.problem?_eq_none_iff] at hunusable
          obtain ⟨diagnostic, hproblem⟩ := Option.ne_none_iff_exists'.mp hunusable
          refine ⟨diagnostic, hproblem, ?_⟩
          rw [← h]
          rcases Branch.problem?_cases hproblem with ⟨-, rfl⟩ | ⟨value, -, hcase⟩
          · rfl
          · rcases hcase with ⟨-, -, rfl⟩ | ⟨key, -, -, -, rfl⟩ <;> rfl

theorem standIn_of_report? {diagnostic : Diagnostic}
    (h : visit.report? values = some diagnostic) :
    (∃ name, visit.shown? values = some (.standIn name)) ∨ visit.TakesOther values := by
  obtain ⟨node, around, number⟩ := visit
  cases node with
  | sequence parts => simp [report?] at h
  | literal text => simp [report?] at h
  | numberField => simp [report?] at h
  | placeholder name =>
      cases hvalue : values[name]? with
      | some value => simp [report?, hvalue] at h
      | none => exact Or.inl ⟨name, by simp [shown?, hvalue]⟩
  | branch choice =>
      cases hcontent : choice.content? values with
      | none => exact Or.inl ⟨choice.name, by simp [shown?, hcontent]⟩
      | some content =>
          obtain ⟨hkind, habsent, hother⟩ := Branch.content?_of_problem? h hcontent
          exact Or.inr ⟨choice, content, rfl, hkind, habsent, hother⟩

/-- What a visit puts out that reports nothing is what it should be. -/
theorem shows_of_report?_eq_none (placed : visit.IsPlaced values)
    (h : visit.report? values = none) {shown : Shown}
    (hshown : visit.shown? values = some shown) : visit.Shows values shown := by
  cases hnode : visit.node with
  | sequence parts => simp [shown?, hnode] at hshown
  | literal text =>
      simp only [shown?, hnode, Option.some.injEq] at hshown
      rw [← hshown]
      exact .text hnode
  | numberField =>
      simp only [shown?, hnode, Option.some.injEq] at hshown
      rw [← hshown]
      cases hnearest : visit.around.find? (·.kind = .plural) with
      | none =>
          have hnumber : visit.number = none := by simp [placed.number, hnearest]
          rw [hnumber]
          exact .noNumber hnode (by simpa using hnearest)
      | some choice =>
          have hplural : choice.kind = .plural := by simpa using List.find?_some hnearest
          obtain ⟨value, n, hvalue, hn⟩ :=
            placed.chosen choice (List.mem_of_find?_eq_some hnearest) hplural
          have hnumber : visit.number = some n := by
            simp [placed.number, hnearest, Values.operand?, hvalue, hn]
          rw [hnumber]
          exact .number hnode hnearest hvalue hn
  | placeholder name =>
      cases hvalue : values[name]? with
      | none => simp [report?, hnode, hvalue] at h
      | some value =>
          simp only [shown?, hnode, hvalue, Option.elim_some, Option.some.injEq] at hshown
          rw [← hshown]
          exact .value hnode hvalue
  | branch choice =>
      simp only [report?, hnode] at h
      obtain ⟨content, hcontent⟩ := (Branch.problem?_eq_none_iff.mp h).content?
      simp [shown?, hnode, hcontent] at hshown

theorem Leads.isWithin {next : Visit} {tree : Node} (leads : visit.Leads values next)
    (within : visit.node.IsWithin tree) : next.node.IsWithin tree := by
  cases leads with
  | part hpart => exact within.part hpart
  | content hcontent =>
      obtain ⟨option, hoption, rfl⟩ := Branch.mem_of_content? hcontent
      exact within.content hoption

end Visit

/--
**Every report has a reason, and every stand-in for a name has its report.**

The rendering is told visit by visit, so that it can be said which node a report or a piece
of the output is from.
-/
theorem render_accounts (node : Node) (values : Values) :
    Accounts node values (node.visits values [] none) where
  told := fun _ sink => node.says_visits sink [] none
  justified := by
    intro diagnostic hdiagnostic
    obtain ⟨visit, hvisit, hreport⟩ := List.mem_filterMap.mp hdiagnostic
    have within : visit.node.IsWithin node :=
      node.forall_visits (fun _ _ leads => leads.isWithin) [] none (.refl node) visit hvisit
    exact Visit.justified_of_report? within hreport
  reported := fun _ _ => Visit.exists_report?_iff
  standsIn := fun _ _ _ => Visit.report?_of_standIn
  replaced := fun _ _ _ => Visit.standIn_of_report?
  clean := by
    intro hnone visit hvisit shown hshown
    have hreport : visit.report? values = none :=
      List.filterMap_eq_nil_iff.mp hnone visit hvisit
    exact Visit.shows_of_report?_eq_none (node.isPlaced_visits visit hvisit) hreport hshown

end MessageTemplate
