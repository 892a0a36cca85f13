/-
A value and its text.

Rendering sees two things of a value: its text, and the number by which a plural branch chooses.
Of the number it sees the category and, where a number field shows it, again the text, so that
the two zeros are one (`Binary64.shown`).  Maps with values that are interchangeable in this way
render alike (`Node.renderUnder_interchangeable`).

The text of a number reads back as the number, so a number is interchangeable with its text
(`Value.interchangeable_display`).  For an infinity, and for what is no number, both have no
number to choose by.  A truth value has no such text, since `true` and `false` spell no number.
-/
import MessageTemplate.Proofs.Number.Display
import MessageTemplate.Proofs.Visits

namespace MessageTemplate

/-! ### The sign of zero -/

@[simp] theorem pluralCategory_shown (x : Binary64) :
    pluralCategory x.shown = pluralCategory x := by
  cases x with
  | nan => rfl
  | infinite negative => rfl
  | finite negative rank =>
      by_cases hzero : rank.val = 0
      · simp [pluralCategory, Binary64.shown, hzero, BinaryFormat.units]
      · simp [pluralCategory, Binary64.shown, hzero]

/-- Number fields show the same for numbers that differ in the sign of zero only. -/
theorem numberFieldText_congr {number other : Option Binary64}
    (h : number.map Binary64.shown = other.map Binary64.shown) :
    numberFieldText number = numberFieldText other := by
  have hshown : ∀ n : Option Binary64,
      numberFieldText (n.map Binary64.shown) = numberFieldText n := by
    rintro (- | n)
    · rfl
    · exact n.shown_display
  rw [← hshown number, h, hshown other]

/-! ### Values that cannot be told apart -/

/-- Two values with one text and one number to choose by, up to the sign of zero. -/
structure Value.Interchangeable (value other : Value) : Prop where
  display : value.display = other.display
  operand : value.pluralOperand?.map Binary64.shown = other.pluralOperand?.map Binary64.shown

theorem Value.Interchangeable.refl (value : Value) : value.Interchangeable value :=
  ⟨rfl, rfl⟩

/-- Maps with interchangeable values under the same names. -/
def Values.Interchangeable (values others : Values) : Prop :=
  ∀ name : String, Option.Rel Value.Interchangeable values[name]? others[name]?

variable {values others : Values}

namespace Branch

variable {α : Type} {choice : Branch α}

theorem key?_interchangeable {value other : Value} (h : value.Interchangeable other) :
    choice.key? value = choice.key? other := by
  have hcategory : ∀ v : Value, (v.pluralOperand?.map fun n => (pluralCategory n).key)
      = (v.pluralOperand?.map Binary64.shown).map fun n => (pluralCategory n).key := by
    intro v
    rw [Option.map_map]
    exact congrArg (v.pluralOperand?.map ·) (funext fun n => by simp)
  simp only [key?, h.display]
  rw [hcategory value, h.operand, ← hcategory other]

/-- A branch reports the same. -/
theorem problem?_interchangeable
    (h : Option.Rel Value.Interchangeable values[choice.name]? others[choice.name]?) :
    choice.problem? values = choice.problem? others := by
  unfold problem?
  generalize values[choice.name]? = value at h ⊢
  generalize others[choice.name]? = other at h ⊢
  cases h with
  | none => rfl
  | some hvalue => simp only [key?_interchangeable hvalue, hvalue.display]

/-- A branch puts out the same content. -/
theorem content?_interchangeable
    (h : Option.Rel Value.Interchangeable values[choice.name]? others[choice.name]?) :
    choice.content? values = choice.content? others := by
  unfold content?
  generalize values[choice.name]? = value at h ⊢
  generalize others[choice.name]? = other at h ⊢
  cases h with
  | none => rfl
  | some hvalue => simp only [key?_interchangeable hvalue]

/-- The active number inside is the same up to the sign of zero. -/
theorem numberInside_interchangeable
    (h : Option.Rel Value.Interchangeable values[choice.name]? others[choice.name]?)
    {number other : Option Binary64}
    (hnumber : number.map Binary64.shown = other.map Binary64.shown) :
    (choice.numberInside values number).map Binary64.shown
      = (choice.numberInside others other).map Binary64.shown := by
  unfold numberInside
  cases choice.kind with
  | select => exact hnumber
  | plural =>
      unfold Values.operand?
      generalize values[choice.name]? = value at h ⊢
      generalize others[choice.name]? = other at h ⊢
      cases h with
      | none => rfl
      | some hvalue => exact hvalue.operand

end Branch

namespace Node

variable {σ : Type} (sink : Sink σ)

theorem renderParts_interchangeable {parts : List Node} {number other : Option Binary64}
    (h : ∀ part ∈ parts,
      part.renderUnder sink values number = part.renderUnder sink others other) :
    renderParts sink values parts number = renderParts sink others parts other := by
  induction parts with
  | nil => rw [renderParts, renderParts]
  | cons part rest ih =>
      rw [List.forall_mem_cons] at h
      rw [renderParts, renderParts, h.1, ih h.2]

/-- **Interchangeable values render alike.** -/
theorem renderUnder_interchangeable (h : Values.Interchangeable values others) (node : Node) :
    ∀ number other : Option Binary64, number.map Binary64.shown = other.map Binary64.shown →
      node.renderUnder sink values number = node.renderUnder sink others other := by
  induction node using treeInduction with
  | sequence parts ih =>
      intro number other hnumber
      rw [renderUnder, renderUnder]
      exact renderParts_interchangeable sink fun part hpart => ih part hpart number other hnumber
  | literal text =>
      intro number other _
      rw [renderUnder, renderUnder]
  | numberField =>
      intro number other hnumber
      rw [renderUnder, renderUnder, numberFieldText_congr hnumber]
  | placeholder name =>
      intro number other _
      rw [renderUnder, renderUnder]
      unfold renderPlaceholder
      have hname := h name
      generalize values[name]? = value at hname ⊢
      generalize others[name]? = other at hname ⊢
      cases hname with
      | none => rfl
      | some hvalue => simp only [hvalue.display]
  | branch choice ih =>
      intro number other hnumber
      rw [renderUnder_branch, renderUnder_branch, Branch.problem?_interchangeable (h choice.name),
        Branch.content?_interchangeable (h choice.name)]
      cases hcontent : choice.content? others with
      | none => rfl
      | some content =>
          obtain ⟨option, hoption, rfl⟩ := Branch.mem_of_content? hcontent
          simp only [ih option hoption _ _
            (Branch.numberInside_interchangeable (h choice.name) hnumber)]

end Node

/-! ### Numbers and their texts -/

/-- **A number is interchangeable with its text.** -/
theorem Value.interchangeable_display {value : Value}
    (h : (∃ n, value = .number n) ∨ ∃ x, value = .float x) :
    (string value.display).Interchangeable value := by
  refine ⟨rfl, ?_⟩
  rcases h with ⟨n, rfl⟩ | ⟨x, rfl⟩
  · have hread : (string (number n).display).numeric? = (number n).numeric? := by
      simp only [numeric?, display, trimBlanks_of_forall (isBlank_integerText _),
        Binary64.read?_integerText]
    rw [pluralOperand?, hread, pluralOperand?]
  · have hread : (string (float x).display).numeric? = some x.shown := by
      simp only [numeric?, display, trimBlanks_of_forall x.isBlank_display, Binary64.read?_display]
    rw [pluralOperand?, hread, pluralOperand?, numeric?]
    cases x with
    | nan => rfl
    | infinite negative => rfl
    | finite negative rank => simp [Option.filter, Binary64.shown, Binary64.isFinite]

/-- Taking the text of one number keeps the maps interchangeable. -/
theorem Values.interchangeable_insert {name : String} {value other : Value}
    (hvalue : values[name]? = some value) (h : other.Interchangeable value) :
    Values.Interchangeable (values.insert name other) values := by
  intro asked
  by_cases hname : name = asked
  · subst hname
    rw [Std.TreeMap.getElem?_insert_self, hvalue]
    exact Option.Rel.some h
  · rw [Std.TreeMap.getElem?_insert, if_neg (by simpa using hname)]
    cases values[asked]? with
    | none => exact Option.Rel.none
    | some value => exact Option.Rel.some (.refl value)

/--
**A number and its text are interchangeable.**

Whatever the tree does with the number, with its text in the place of the number it renders to
the same text and sends the same diagnostics to every sink.
-/
theorem Node.render_insert_display (node : Node) {values : Values} {name : String} {value : Value}
    (hvalue : values[name]? = some value)
    (hnumber : (∃ n, value = .number n) ∨ ∃ x, value = .float x) {σ : Type} (sink : Sink σ) :
    node.render sink (values.insert name (.string value.display)) = node.render sink values :=
  node.renderUnder_interchangeable sink
    (Values.interchangeable_insert hvalue (Value.interchangeable_display hnumber)) none none rfl

/-- Minus zero, which has the text of the other zero, in a branch that shows its number. -/
theorem Node.render_insert_display_minusZero :
    let zero : Value := .float (.finite true ⟨0, by decide⟩)
    let values : Values := (∅ : Values).insert "x" zero
    let node : Node := .branch { name := "x", kind := .plural, options :=
      [("=0", .sequence [.numberField, .placeholder "x", .placeholder "y"])] }
    values["x"]? = some zero ∧ ((∃ n, zero = .number n) ∨ ∃ x, zero = .float x) ∧
      node.render Sink.keepAll (values.insert "x" (.string "0"))
        = node.render Sink.keepAll values := by
  intro zero values node
  have hvalue : values["x"]? = some zero := Std.TreeMap.getElem?_insert_self
  have hnumber : (∃ n, zero = .number n) ∨ ∃ x, zero = .float x := Or.inr ⟨_, rfl⟩
  exact ⟨hvalue, hnumber, node.render_insert_display hvalue hnumber Sink.keepAll⟩

end MessageTemplate
