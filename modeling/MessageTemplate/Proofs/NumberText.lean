/-
The text of a number field.

A number field shows the number by which its plural branch chose, and that is a floating-point
number also where the value is an integer.  So what it shows are the digits of an integer that
is rounded to the same number as the value.  The placeholder shows the value itself.  The two
texts are the same up to `2 ^ 53`, and need not be the same beyond.
-/
import MessageTemplate.Proofs.Number.Display
import MessageTemplate.Proofs.Visits

namespace MessageTemplate

open Visit (textOf reportsOf)

variable {values : Values}

theorem Int64.natAbs_toInt_le (n : Int64) : n.toInt.natAbs ≤ 2 ^ 63 := by
  have hlow := n.le_toInt
  have hhigh := n.toInt_lt
  omega

/-- An integer is always of use to a plural branch. -/
theorem Value.pluralOperand?_number (n : Int64) :
    (Value.number n).pluralOperand? = some (Binary64.ofInt n.toInt) := by
  have hlt := BinaryFormat.nearestRank_lt_infinityRank (Int64.natAbs_toInt_le n)
  have hfinite : (Binary64.ofInt n.toInt).isFinite = true := by
    rw [Binary64.ofInt, Binary64.ofRatio, Binary64.ofRank_of_lt _ hlt]
    rfl
  rw [pluralOperand?, numeric?, Option.filter_some, if_pos hfinite]

/-- **The texts of an integer**, where it chose an option and where it is shown itself. -/
structure Node.ShowsInteger (node : Node) (values : Values) (name : String) (n m : Int) :
    Prop where
  /-- A rendering puts out what its visits show. -/
  rendered : ∀ {σ : Type} (sink : Sink σ), SaysTo sink (node.render sink values)
    (textOf values (node.visits values [] none)) (reportsOf values (node.visits values [] none))
  /-- A number field whose nearest plural branch is on the integer shows `m`. -/
  numberField : ∀ visit ∈ node.visits values [] none, visit.node = .numberField →
    ∀ choice, visit.around.find? (·.kind = .plural) = some choice → choice.name = name →
      (visit.shown? values).map Shown.display = some (integerText m)
  /-- So does compiled code that asks for the number. -/
  number : Resolve.number values name = integerText m
  /-- A placeholder for the integer shows `n`. -/
  placeholder : ∀ visit ∈ node.visits values [] none, visit.node = .placeholder name →
    (visit.shown? values).map Shown.display = some (integerText n)
  /-- So does compiled code that asks for the text. -/
  text : ∀ {σ : Type} (sink : Sink σ), Resolve.text sink values name = pure (integerText n)

/--
**A number field shows the number nearest to an integer**, in the digits of an integer.

They are the digits of the integer itself up to `2 ^ 53`.
-/
theorem Node.exists_showsInteger (node : Node) {values : Values} {name : String} {n : Int64}
    (hvalue : values[name]? = some (.number n)) :
    ∃ m, Binary64.ofInt m = Binary64.ofInt n.toInt ∧
      (n.toInt.natAbs ≤ 2 ^ 53 → m = n.toInt) ∧ node.ShowsInteger values name n.toInt m := by
  have hoperand : values.operand? name = some (Binary64.ofInt n.toInt) := by
    rw [Values.operand?, hvalue, Option.bind_some, Value.pluralOperand?_number]
  obtain ⟨m, hsame, hexact, htext⟩ : ∃ m, Binary64.ofInt m = Binary64.ofInt n.toInt ∧
      (n.toInt.natAbs ≤ 2 ^ 53 → m = n.toInt) ∧
        (Binary64.ofInt n.toInt).display = integerText m := by
    by_cases hsmall : n.toInt.natAbs ≤ 2 ^ 53
    · exact ⟨n.toInt, rfl, fun _ => rfl, Binary64.display_ofInt_of_le hsmall⟩
    · obtain ⟨m, htext, hsame⟩ := Binary64.exists_display_ofInt (Int64.natAbs_toInt_le n)
      exact ⟨m, hsame, fun h => absurd h hsmall, htext⟩
  refine ⟨m, hsame, hexact, ?_⟩
  constructor
  case rendered =>
    exact fun sink => node.says_visits sink [] none
  case numberField =>
    intro visit hvisit hfield choice hnearest hname
    have hnumber := (node.isPlaced_visits visit hvisit).number
    rw [hnearest, Option.bind_some, hname, hoperand] at hnumber
    simp [Visit.shown?, hfield, hnumber, Shown.display, htext]
  case number =>
    rw [Resolve.number, hvalue, Option.bind_some, Value.pluralOperand?_number]
    exact htext
  case placeholder =>
    intro visit _ hplaceholder
    simp [Visit.shown?, hplaceholder, hvalue, Shown.display, Value.display]
  case text =>
    intro σ sink
    simp only [Resolve.text, hvalue, Value.display]

/-- An integer that is the same number as its neighbour, under two branches. -/
theorem Node.exists_showsInteger_beyond :
    let values : Values := (∅ : Values).insert "x" (.number 9007199254740993)
    let inner : Node := .branch { name := "y", kind := .select, options :=
      [("other", .sequence [.numberField, .placeholder "x"])] }
    let node : Node := .branch { name := "x", kind := .plural, options := [("many", inner)] }
    values["x"]? = some (.number 9007199254740993) ∧
      ∃ m, Binary64.ofInt m = Binary64.ofInt (9007199254740993 : Int64).toInt ∧
        ((9007199254740993 : Int64).toInt.natAbs ≤ 2 ^ 53 → m = (9007199254740993 : Int64).toInt) ∧
        node.ShowsInteger values "x" (9007199254740993 : Int64).toInt m := by
  intro values inner node
  have hvalue : values["x"]? = some (.number 9007199254740993) :=
    Std.TreeMap.getElem?_insert_self
  exact ⟨hvalue, node.exists_showsInteger hvalue⟩

/-- The first integer whose number field has another text than its placeholder. -/
theorem Node.numberField_ne_placeholder :
    let values : Values := (∅ : Values).insert "x" (.number 9007199254740993)
    let node : Node := .branch { name := "x", kind := .plural, options :=
      [("other", .sequence [.numberField, .literal " ", .placeholder "x"])] }
    parse "\x7bx, plural, other\x7b# \x7bx\x7d\x7d\x7d" = .ok node ∧
      (node.render Sink.keepAll values).run []
        = ("9007199254740992 9007199254740993", []) ∧
      Resolve.number values "x" = "9007199254740992" := by
  intro values node
  refine ⟨rfl, ?_, ?_⟩
  · change @Eq (String × List Diagnostic) _ _
    decide +kernel
  · decide +kernel

end MessageTemplate
