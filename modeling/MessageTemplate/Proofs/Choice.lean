/-
What a branch does with its value.

A branch makes two decisions, and both look only at its value and its keys: what it reports
(`problem?`) and which content it puts out (`content?`).  They are not the same decision,
since a select branch without its value reports that and still puts out `other`.

Rendering and compiled code make them alike, so they are stated once, for contents of any
type, and the two ways of carrying out a branch are told in terms of them
(`renderBranch_eq`, `Resolve.branch_eq_choice`).
-/
import MessageTemplate.Compiled.Resolve
import MessageTemplate.Proofs.Branch
import MessageTemplate.Render

namespace MessageTemplate

/-- The number by which a plural branch on a name chooses, if there is one. -/
def Values.operand? (values : Values) (name : String) : Option Binary64 :=
  values[name]?.bind Value.pluralOperand?

namespace Branch

variable {α β : Type}

/-- The key by which a branch chooses for a value, if the value is of use to it. -/
def key? (choice : Branch α) (value : Value) : Option String :=
  match choice.kind with
  | .select => some value.display
  | .plural => value.pluralOperand?.map fun n => (pluralCategory n).key

/-- What a branch reports: no value, a value that is of no use, or no option for it. -/
def problem? (values : Values) (choice : Branch α) : Option Diagnostic :=
  match values[choice.name]? with
  | none => some (.missingValue choice.name)
  | some value =>
    match choice.key? value with
    | none => some (.notNumeric choice.name value.display)
    | some key =>
      match choice.select key with
      | none => some (.missingOption choice.name key)
      | some _ => none

/-- The content that a branch puts out, if it puts out any. -/
def content? (values : Values) (choice : Branch α) : Option α :=
  match values[choice.name]? with
  | none =>
    match choice.kind with
    | .select => choice.option? otherKey
    | .plural => none
  | some value => (choice.key? value).bind choice.select

/-- The number that is active in the contents of a branch. -/
def numberInside (values : Values) (choice : Branch α) (number : Option Binary64) :
    Option Binary64 :=
  match choice.kind with
  | .plural => values.operand? choice.name
  | .select => number

/-- A branch with other contents under the same keys. -/
def mapContents (f : α → β) (choice : Branch α) : Branch β :=
  { name := choice.name, kind := choice.kind,
    options := choice.options.map fun option => (option.1, f option.2) }

/-! ### The contents do not matter -/

variable {values : Values} (f : α → β) (choice : Branch α)

@[simp] theorem mapContents_name : (choice.mapContents f).name = choice.name := rfl

@[simp] theorem mapContents_kind : (choice.mapContents f).kind = choice.kind := rfl

theorem option?_mapContents (key : String) :
    (choice.mapContents f).option? key = (choice.option? key).map f :=
  lookup_map_snd f key choice.options

theorem select_mapContents (key : String) :
    (choice.mapContents f).select key = (choice.select key).map f :=
  selectOption_map f choice.options key

@[simp] theorem problem?_mapContents :
    (choice.mapContents f).problem? values = choice.problem? values := by
  have hkey : (choice.mapContents f).key? = choice.key? := rfl
  unfold problem?
  simp only [mapContents_name, hkey, select_mapContents]
  cases values[choice.name]? with
  | none => rfl
  | some value =>
      cases hchosen : choice.key? value with
      | none => simp only [hchosen]
      | some key =>
          simp only [hchosen]
          cases choice.select key <;> rfl

@[simp] theorem content?_mapContents :
    (choice.mapContents f).content? values = (choice.content? values).map f := by
  have hkey : (choice.mapContents f).key? = choice.key? := rfl
  unfold content?
  simp only [mapContents_name, mapContents_kind, hkey, option?_mapContents]
  cases values[choice.name]? with
  | none => cases choice.kind <;> rfl
  | some value =>
      cases hchosen : choice.key? value with
      | none => simp only [hchosen, Option.bind_none, Option.map_none]
      | some key => simp only [hchosen, Option.bind_some, select_mapContents]

/-! ### Only one value matters -/

section

variable {values others : Values} {choice : Branch α}

theorem problem?_congr (h : values[choice.name]? = others[choice.name]?) :
    choice.problem? values = choice.problem? others := by
  simp only [problem?, h]

theorem content?_congr (h : values[choice.name]? = others[choice.name]?) :
    choice.content? values = choice.content? others := by
  simp only [content?, h]

theorem numberInside_congr (h : values[choice.name]? = others[choice.name]?)
    (number : Option Binary64) :
    choice.numberInside values number = choice.numberInside others number := by
  simp only [numberInside, Values.operand?, h]

end

/-! ### What the decisions mean -/

variable {choice}

/-- Only a plural branch can find a value of no use. -/
theorem key?_eq_none_iff {value : Value} :
    choice.key? value = none ↔ choice.kind = .plural ∧ value.pluralOperand? = none := by
  unfold key?
  cases choice.kind <;> simp

theorem select_eq_none_iff {key : String} :
    choice.select key = none ↔ choice.option? key = none ∧ choice.option? otherKey = none := by
  unfold select selectOption option?
  cases choice.options.lookup key <;> simp

/-- What is put out is the content of an option. -/
theorem mem_of_content? {content : α} (h : choice.content? values = some content) :
    ∃ option ∈ choice.options, option.2 = content := by
  unfold content? at h
  cases hvalue : values[choice.name]? with
  | none =>
      simp only [hvalue] at h
      cases hkind : choice.kind with
      | plural => simp [hkind] at h
      | select =>
          simp only [hkind] at h
          exact ⟨_, mem_of_lookup h, rfl⟩
  | some value =>
      simp only [hvalue, Option.bind_eq_some_iff] at h
      obtain ⟨key, -, hselect⟩ := h
      exact mem_of_selectOption hselect

/-- A plural branch puts out nothing unless its value has a number. -/
theorem operand?_of_content? {content : α} (h : choice.content? values = some content)
    (hkind : choice.kind = .plural) :
    ∃ value n, values[choice.name]? = some value ∧ value.pluralOperand? = some n := by
  unfold content? at h
  cases hvalue : values[choice.name]? with
  | none => simp [hvalue, hkind] at h
  | some value =>
      simp only [hvalue, key?, hkind, Option.bind_eq_some_iff, Option.map_eq_some_iff] at h
      obtain ⟨-, ⟨n, hn, -⟩, -⟩ := h
      exact ⟨value, n, rfl, hn⟩

/-- A branch reports that it has no value, that the value has no number, or that there is
neither the option for its key nor `other`. -/
theorem problem?_cases {diagnostic : Diagnostic}
    (h : choice.problem? values = some diagnostic) :
    values[choice.name]? = none ∧ diagnostic = .missingValue choice.name ∨
      ∃ value, values[choice.name]? = some value ∧
        (choice.kind = .plural ∧ value.pluralOperand? = none ∧
            diagnostic = .notNumeric choice.name value.display ∨
          ∃ key, choice.key? value = some key ∧ choice.option? key = none ∧
            choice.option? otherKey = none ∧ diagnostic = .missingOption choice.name key) := by
  unfold problem? at h
  cases hvalue : values[choice.name]? with
  | none =>
      simp only [hvalue] at h
      exact Or.inl ⟨rfl, (Option.some.inj h).symm⟩
  | some value =>
      refine Or.inr ⟨value, rfl, ?_⟩
      cases hkey : choice.key? value with
      | none =>
          simp only [hvalue, hkey] at h
          obtain ⟨hkind, hnumber⟩ := key?_eq_none_iff.mp hkey
          exact Or.inl ⟨hkind, hnumber, (Option.some.inj h).symm⟩
      | some key =>
          cases hselect : choice.select key with
          | some content => simp [hvalue, hkey, hselect] at h
          | none =>
              simp only [hvalue, hkey, hselect] at h
              obtain ⟨hoption, hother⟩ := select_eq_none_iff.mp hselect
              exact Or.inr ⟨key, rfl, hoption, hother, (Option.some.inj h).symm⟩

/-- **A branch whose value and option are of use**: the value is there, it gives a key, and
there is an option for the key. -/
def Usable (values : Values) (choice : Branch α) : Prop :=
  ∃ value key content, values[choice.name]? = some value ∧ choice.key? value = some key ∧
    choice.select key = some content

/-- A branch reports nothing exactly if its value and option are of use. -/
theorem problem?_eq_none_iff : choice.problem? values = none ↔ choice.Usable values := by
  constructor
  · intro h
    unfold problem? at h
    cases hvalue : values[choice.name]? with
    | none => simp [hvalue] at h
    | some value =>
        cases hkey : choice.key? value with
        | none => simp [hvalue, hkey] at h
        | some key =>
            cases hselect : choice.select key with
            | none => simp [hvalue, hkey, hselect] at h
            | some content => exact ⟨value, key, content, hvalue, hkey, hselect⟩
  · rintro ⟨value, key, content, hvalue, hkey, hselect⟩
    simp [problem?, hvalue, hkey, hselect]

/-- Nothing is put out only where something is reported. -/
theorem Usable.content? (h : choice.Usable values) :
    ∃ content, choice.content? values = some content := by
  obtain ⟨value, key, content, hvalue, hkey, hselect⟩ := h
  exact ⟨content, by simp [Branch.content?, hvalue, hkey, hselect]⟩

/-- Something is put out in spite of a report only by a select branch without its value. -/
theorem content?_of_problem? {diagnostic : Diagnostic} {content : α}
    (h : choice.problem? values = some diagnostic)
    (hcontent : choice.content? values = some content) :
    choice.kind = .select ∧ values[choice.name]? = none ∧
      choice.option? otherKey = some content := by
  unfold content? at hcontent
  cases hvalue : values[choice.name]? with
  | none =>
      cases hkind : choice.kind with
      | plural => simp [hvalue, hkind] at hcontent
      | select => exact ⟨rfl, rfl, by simpa [hvalue, hkind] using hcontent⟩
  | some value =>
      -- A value that leads to a content is of use, so nothing is reported.
      simp only [hvalue, Option.bind_eq_some_iff] at hcontent
      obtain ⟨key, hkey, hselect⟩ := hcontent
      rw [problem?_eq_none_iff.mpr ⟨value, key, content, hvalue, hkey, hselect⟩] at h
      simp at h

end Branch

/-! ### The two ways of carrying out a branch -/

/-- Reports a diagnostic if there is one. -/
def Sink.warnIfAny {σ : Type} (sink : Sink σ) (diagnostic : Option Diagnostic) :
    StateM σ Unit :=
  diagnostic.elim (pure ()) sink.warn

variable {σ : Type} (sink : Sink σ) (values : Values)

/-- Rendering a branch reports the problem and renders the content. -/
theorem renderBranch_eq (choice : Branch (Rendering σ)) (number : Option Binary64) :
    renderBranch sink values choice number = do
      sink.warnIfAny (choice.problem? values)
      match choice.content? values with
      | some content => content (choice.numberInside values number)
      | none => return standIn choice.name := by
  unfold renderBranch Branch.problem? Branch.content?
  cases hkind : choice.kind with
  | select =>
      unfold renderSelect
      cases values[choice.name]? with
      | none =>
          cases hother : choice.option? otherKey <;>
            simp [Sink.warnIfAny, Branch.numberInside, hkind]
      | some value =>
          have hkey : choice.key? value = some value.display := by simp [Branch.key?, hkind]
          cases hselect : choice.select value.display <;>
            simp [Sink.warnIfAny, Branch.numberInside, hkind, hkey, hselect]
  | plural =>
      unfold renderPlural
      cases hvalue : values[choice.name]? with
      | none => simp [Sink.warnIfAny]
      | some value =>
          cases hn : value.pluralOperand? with
          | none => simp [Sink.warnIfAny, Branch.key?, hkind, hn]
          | some n =>
              have hkey : choice.key? value = some (pluralCategory n).key := by
                simp [Branch.key?, hkind, hn]
              have hinside : choice.numberInside values number = some n := by
                simp [Branch.numberInside, hkind, Values.operand?, hvalue, hn]
              cases hselect : choice.select (pluralCategory n).key <;>
                simp [Sink.warnIfAny, hn, hkey, hinside, hselect]

/-- A resolver call reports the problem and renders the arm. -/
theorem Resolve.branch_eq_choice (kind : BranchKind) (name : String)
    (arms : List (String × Arm σ)) :
    let choice : Branch (Arm σ) := { name, kind, options := arms }
    Resolve.branch sink values kind name arms = do
      sink.warnIfAny (choice.problem? values)
      match choice.content? values with
      | some arm => arm.render
      | none => return Resolve.braced name := by
  unfold Resolve.branch Branch.problem? Branch.content?
  dsimp only
  cases kind with
  | select =>
      unfold Resolve.select
      cases values[name]? with
      | none =>
          cases hother : arms.lookup otherKey <;>
            simp [Sink.warnIfAny, Branch.option?, hother]
      | some value =>
          cases hselect : selectOption arms value.display <;>
            simp [Sink.warnIfAny, Branch.key?, Branch.select, Resolve.missingOption, hselect]
  | plural =>
      unfold Resolve.plural
      cases values[name]? with
      | none => simp [Sink.warnIfAny]
      | some value =>
          cases hn : value.pluralOperand? with
          | none => simp [Sink.warnIfAny, Branch.key?, hn]
          | some n =>
              cases hselect : selectOption arms (pluralCategory n).key <;>
                simp [Sink.warnIfAny, Branch.key?, Branch.select, Resolve.missingOption, hn,
                  hselect]

/-- A resolver call with arms made from the contents of a branch decides as the branch does. -/
theorem Resolve.branch_mapContents {α : Type} (f : α → Arm σ) (choice : Branch α) :
    Resolve.branch sink values choice.kind choice.name (choice.mapContents f).options = do
      sink.warnIfAny (choice.problem? values)
      match choice.content? values with
      | some content => (f content).render
      | none => return Resolve.braced choice.name := by
  refine (Resolve.branch_eq_choice sink values choice.kind choice.name _).trans ?_
  change (do
    sink.warnIfAny ((choice.mapContents f).problem? values)
    match (choice.mapContents f).content? values with
    | some arm => arm.render
    | none => return Resolve.braced choice.name) = _
  rw [Branch.problem?_mapContents, Branch.content?_mapContents]
  cases choice.content? values <;> rfl

end MessageTemplate
