/-
The distance is the least number of edits, and the suggestion the one operator so near.

An edit inserts, deletes or replaces one character anywhere in a text, and edits follow
each other in any order.  The table of distances knows nothing of places and orders: it
only compares first characters.  Its rows fit together (`distances_cons`), so each entry
is the cheapest of three entries for shorter texts (`between_cons_cons`).  Followed from
there, an entry is the length of a list of edits (`edits_between`).  That no list is
shorter comes from the other side: one edit, wherever it is made, moves the distance to
any text by one at most (`Edit.between_le`).

Edits can be undone and put one after the other.  So whatever is two edits away from two
operators would bring them within four of each other, and they are six apart.
-/
import Mathlib.Order.Bounds.Basic
import MessageTemplate.ParseError

namespace MessageTemplate

namespace EditDistance

/-! ### Edits -/

/-- One edit: a character is inserted, deleted or replaced by another one. -/
inductive Edit : List Char → List Char → Prop
  | insert (before after : List Char) (c : Char) :
      Edit (before ++ after) (before ++ c :: after)
  | delete (before after : List Char) (c : Char) :
      Edit (before ++ c :: after) (before ++ after)
  | replace (before after : List Char) {c d : Char} (differ : c ≠ d) :
      Edit (before ++ c :: after) (before ++ d :: after)

/-- So many edits, one after the other, that turn a text into another one. -/
inductive Edits : Nat → List Char → List Char → Prop
  | done (text : List Char) : Edits 0 text text
  | step {n : Nat} {first second last : List Char} (edit : Edit first second)
      (rest : Edits n second last) : Edits (n + 1) first last

variable {m n : Nat} {xs ys zs : List Char}

/-- An edit behind one more character. -/
theorem Edit.cons (h : Edit xs ys) (x : Char) : Edit (x :: xs) (x :: ys) := by
  cases h with
  | insert before after c => exact Edit.insert (x :: before) after c
  | delete before after c => exact Edit.delete (x :: before) after c
  | replace before after differ => exact Edit.replace (x :: before) after differ

/-- Every edit can be undone by one. -/
theorem Edit.symm (h : Edit xs ys) : Edit ys xs := by
  cases h with
  | insert before after c => exact Edit.delete before after c
  | delete before after c => exact Edit.insert before after c
  | replace before after differ => exact Edit.replace before after differ.symm

namespace Edits

theorem cons (h : Edits n xs ys) (x : Char) : Edits n (x :: xs) (x :: ys) := by
  induction h with
  | done text => exact Edits.done (x :: text)
  | step edit _ ih => exact Edits.step (edit.cons x) ih

theorem trans (h : Edits m xs ys) (h' : Edits n ys zs) : Edits (m + n) xs zs := by
  induction h with
  | done text =>
      rw [Nat.zero_add]
      exact h'
  | step edit _ ih =>
      rw [Nat.add_right_comm]
      exact Edits.step edit (ih h')

theorem symm (h : Edits n xs ys) : Edits n ys xs := by
  induction h with
  | done text => exact Edits.done text
  | step edit _ ih => exact ih.trans (Edits.step edit.symm (Edits.done _))

/-- The first character is deleted before all other edits. -/
theorem deleteFirst (h : Edits n xs ys) (x : Char) : Edits (n + 1) (x :: xs) ys :=
  Edits.step (Edit.delete [] xs x) h

/-- The first character of the result is inserted before all other edits. -/
theorem insertFirst (h : Edits n xs ys) (y : Char) : Edits (n + 1) xs (y :: ys) :=
  Edits.step (Edit.insert [] xs y) (h.cons y)

/-- The first character is replaced before all other edits, unless it is there already. -/
theorem matchFirst (h : Edits n xs ys) (x y : Char) :
    Edits (n + if x = y then 0 else 1) (x :: xs) (y :: ys) := by
  by_cases hxy : x = y
  · subst hxy
    rw [if_pos rfl]
    exact h.cons x
  · rw [if_neg hxy]
    exact Edits.step (Edit.replace [] xs hxy) (h.cons y)

end Edits

/-! ### The table of distances -/

/-- The entry of the table for two texts. -/
def between (first second : List Char) : Nat :=
  (distances second first).headD 0

theorem length_extendRow (x : Char) (ys : List Char) (row : List Nat) :
    (extendRow x ys row).length = row.length := by
  fun_induction extendRow x ys row with
  | case1 y ys whole shorter row tail matched ih => simpa [tail] using ih
  | case2 ys row _ => exact List.length_map _

/-- A row has an entry for each suffix of the second text. -/
theorem length_distances (ys xs : List Char) : (distances ys xs).length = ys.length + 1 := by
  induction xs with
  | nil =>
      induction ys with
      | nil => rfl
      | cons y ys ih => exact congrArg (· + 1) ih
  | cons x xs ih => rw [distances, length_extendRow, ih]

/-- A row starts with the entry for the whole second text. -/
theorem exists_distances (ys xs : List Char) :
    ∃ row, distances ys xs = between xs ys :: row := by
  obtain ⟨entry, row, hrow⟩ := List.exists_cons_of_length_eq_add_one (length_distances ys xs)
  exact ⟨row, by rw [between, hrow, List.headD_cons]⟩

/-- Behind that entry it is the row for the rest of the second text. -/
theorem distances_cons (y : Char) (ys xs : List Char) :
    distances (y :: ys) xs = between xs (y :: ys) :: distances ys xs := by
  induction xs with
  | nil => rfl
  | cons x xs ih =>
      obtain ⟨row, hrow⟩ := exists_distances ys xs
      rw [between, distances, distances, ih, hrow, extendRow]
      rfl

@[simp] theorem between_nil_left (ys : List Char) : between [] ys = ys.length := by
  cases ys with
  | nil => rfl
  | cons y ys => rfl

@[simp] theorem between_nil_right (xs : List Char) : between xs [] = xs.length := by
  induction xs with
  | nil => rfl
  | cons x xs ih =>
      obtain ⟨row, hrow⟩ := exists_distances [] xs
      rw [between, distances, hrow, ih]
      rfl

/-- An entry is the cheapest of deleting, inserting and matching first characters. -/
theorem between_cons_cons (x y : Char) (xs ys : List Char) :
    between (x :: xs) (y :: ys)
      = min (between xs (y :: ys) + 1)
          (min (between (x :: xs) ys + 1) (between xs ys + if x = y then 0 else 1)) := by
  obtain ⟨row, hrow⟩ := exists_distances ys xs
  have hinsert : between (x :: xs) ys = (extendRow x ys (between xs ys :: row)).headD 0 := by
    rw [← hrow]
    rfl
  show (extendRow x (y :: ys) (distances (y :: ys) xs)).headD 0 = _
  rw [distances_cons, hrow, extendRow, List.headD_cons, hinsert]

/-! ### The distance as the number of edits -/

/-- **The distance is the length of a list of edits.** -/
theorem edits_between (xs ys : List Char) : Edits (between xs ys) xs ys := by
  induction xs generalizing ys with
  | nil =>
      rw [between_nil_left]
      induction ys with
      | nil => exact Edits.done []
      | cons y ys ih => exact ih.insertFirst y
  | cons x xs ihx =>
      induction ys with
      | nil =>
          rw [between_nil_right]
          have hrest := ihx []
          rw [between_nil_right] at hrest
          exact hrest.deleteFirst x
      | cons y ys ihy =>
          have hleast : between (x :: xs) (y :: ys) = between xs (y :: ys) + 1 ∨
              between (x :: xs) (y :: ys) = between (x :: xs) ys + 1 ∨
              between (x :: xs) (y :: ys) = between xs ys + if x = y then 0 else 1 := by
            rw [between_cons_cons]
            omega
          rcases hleast with hdelete | hinsert | hmatch
          · rw [hdelete]
            exact (ihx (y :: ys)).deleteFirst x
          · rw [hinsert]
            exact ihy.insertFirst y
          · rw [hmatch]
            exact (ihx ys).matchFirst x y

theorem between_self (xs : List Char) : between xs xs = 0 := by
  induction xs with
  | nil => rfl
  | cons x xs ih =>
      rw [between_cons_cons, if_pos rfl, ih]
      omega

/-- A character more in front of the second text makes one edit more at most. -/
theorem between_cons_right_le (xs : List Char) (y : Char) (ys : List Char) :
    between xs (y :: ys) ≤ between xs ys + 1 := by
  cases xs with
  | nil => simp
  | cons x xs =>
      rw [between_cons_cons]
      omega

/-- A character more in front of the first text makes one edit more at most. -/
theorem between_cons_left_le (x : Char) (xs ys : List Char) :
    between (x :: xs) ys ≤ between xs ys + 1 := by
  cases ys with
  | nil => simp
  | cons y ys =>
      rw [between_cons_cons]
      omega

/-- A character less in front of the first text makes one edit more at most. -/
theorem between_le_cons_left (x : Char) (xs ys : List Char) :
    between xs ys ≤ between (x :: xs) ys + 1 := by
  induction ys with
  | nil =>
      rw [between_nil_right, between_nil_right, List.length_cons]
      omega
  | cons y ys ih =>
      have hinsert := between_cons_right_le xs y ys
      rw [between_cons_cons]
      omega

/-- Another character in front of the first text makes one edit more at most. -/
theorem between_replace_le (x x' : Char) (xs ys : List Char) :
    between (x :: xs) ys ≤ between (x' :: xs) ys + 1 := by
  induction ys with
  | nil =>
      rw [between_nil_right, between_nil_right, List.length_cons, List.length_cons]
      omega
  | cons y ys ih =>
      have hcost : (if x = y then 0 else 1) ≤ 1 := by
        split <;> omega
      rw [between_cons_cons, between_cons_cons]
      omega

/-- What is within one edit of each text stays so behind one more character. -/
theorem between_cons_le {xs ys : List Char} (h : ∀ zs, between xs zs ≤ between ys zs + 1)
    (x : Char) (zs : List Char) : between (x :: xs) zs ≤ between (x :: ys) zs + 1 := by
  induction zs with
  | nil =>
      have hnil := h []
      rw [between_nil_right, between_nil_right] at hnil
      rw [between_nil_right, between_nil_right, List.length_cons, List.length_cons]
      omega
  | cons z zs ih =>
      have hdelete := h (z :: zs)
      have hmatch := h zs
      rw [between_cons_cons, between_cons_cons]
      omega

theorem between_append_le {xs ys : List Char} (h : ∀ zs, between xs zs ≤ between ys zs + 1)
    (before zs : List Char) : between (before ++ xs) zs ≤ between (before ++ ys) zs + 1 := by
  induction before generalizing zs with
  | nil => exact h zs
  | cons x before ih => exact between_cons_le ih x zs

/-- **One edit, wherever it is made, moves the distance to any text by one at most.** -/
theorem Edit.between_le (h : Edit xs ys) (zs : List Char) :
    between xs zs ≤ between ys zs + 1 := by
  cases h with
  | insert before after c =>
      exact between_append_le (fun zs => between_le_cons_left c after zs) before zs
  | delete before after c =>
      exact between_append_le (fun zs => between_cons_left_le c after zs) before zs
  | replace before after differ =>
      exact between_append_le (fun zs => between_replace_le _ _ after zs) before zs

/-- No list of edits is shorter than the distance. -/
theorem Edits.between_le (h : Edits n xs ys) : between xs ys ≤ n := by
  induction h with
  | done text => exact Nat.le_of_eq (between_self text)
  | @step n first second last edit _ ih =>
      have hedit := edit.between_le last
      omega

end EditDistance

/-- **The distance of two texts is the least number of edits from one to the other.** -/
theorem isLeast_editDistance (a b : String) :
    IsLeast {n | EditDistance.Edits n a.toList b.toList} (editDistance a b) :=
  ⟨EditDistance.edits_between a.toList b.toList, fun _ h => h.between_le⟩

/-- Two texts that few edits from a third one lead to are not far apart. -/
theorem editDistance_le_add (a b c : String) :
    editDistance b c ≤ editDistance a b + editDistance a c := by
  have hfirst := (EditDistance.edits_between a.toList b.toList).symm
  have hsecond := EditDistance.edits_between a.toList c.toList
  exact (hfirst.trans hsecond).between_le

/-! ### The suggestion -/

/-- A text that is turned into a word by two edits at most. -/
def IsNear (text word : String) : Prop :=
  ∃ least ≤ 2, IsLeast {n | EditDistance.Edits n text.toList word.toList} least

theorem isNear_iff {text word : String} : IsNear text word ↔ editDistance text word ≤ 2 := by
  constructor
  · rintro ⟨least, hle, hleast⟩
    rwa [(isLeast_editDistance text word).unique hleast]
  · intro h
    exact ⟨editDistance text word, h, isLeast_editDistance text word⟩

namespace BranchKind

/-- The operators are too far apart for a text between them to be near to both. -/
theorem four_lt_editDistance {kind other : BranchKind} (h : kind ≠ other) :
    4 < editDistance kind.operator other.operator := by
  cases kind with
  | plural =>
      cases other with
      | plural => exact absurd rfl h
      | select => decide
  | select =>
      cases other with
      | plural => decide
      | select => exact absurd rfl h

/-- **No text is near to two operators.** -/
theorem eq_of_near {operator : String} {kind other : BranchKind}
    (h : editDistance operator kind.operator ≤ 2)
    (h' : editDistance operator other.operator ≤ 2) : kind = other := by
  by_contra hne
  have hapart := four_lt_editDistance hne
  have hsum := editDistance_le_add operator kind.operator other.operator
  omega

/-- Of any kinds, the one that is near is found. -/
theorem nearest?_eq_some_iff {kinds : List BranchKind} {operator : String}
    {kind : BranchKind} :
    nearest? kinds operator = some kind ↔
      kind ∈ kinds ∧ editDistance operator kind.operator ≤ 2 := by
  have hmem : ∀ found, found ∈ (kinds.map fun kind =>
      (editDistance operator kind.operator, kind)).filter (·.1 ≤ 2) ↔
      ∃ kind ∈ kinds, editDistance operator kind.operator ≤ 2 ∧
        found = (editDistance operator kind.operator, kind) := by
    intro found
    rw [List.mem_filter, List.mem_map]
    constructor
    · rintro ⟨⟨kind, hkind, rfl⟩, hnear⟩
      exact ⟨kind, hkind, of_decide_eq_true hnear, rfl⟩
    · rintro ⟨kind, hkind, hnear, rfl⟩
      exact ⟨⟨kind, hkind, rfl⟩, decide_eq_true hnear⟩
  rw [nearest?, Option.map_eq_some_iff]
  constructor
  · rintro ⟨found, hfound, rfl⟩
    obtain ⟨kind, hkind, hnear, rfl⟩ := (hmem found).mp (List.minOn?_mem hfound)
    exact ⟨hkind, hnear⟩
  · rintro ⟨hkind, hnear⟩
    have hsome := List.isSome_minOn?_of_mem (f := (·.1)) ((hmem _).mpr ⟨kind, hkind, hnear, rfl⟩)
    obtain ⟨found, hfound⟩ := Option.isSome_iff_exists.mp hsome
    refine ⟨found, hfound, ?_⟩
    obtain ⟨other, -, hother, rfl⟩ := (hmem found).mp (List.minOn?_mem hfound)
    exact eq_of_near hother hnear

end BranchKind

/--
**The suggestion is the one operator near by.**

A word is suggested for a text exactly if it is an operator and the least number of characters
to insert, delete or replace between the two is two at most; this holds of every text, of those
that are no operators in particular.  No text is near to two operators, and in which order they
are listed does not matter.
-/
theorem suggestion_isTheNearOne :
    (∀ operator word : String,
      (BranchKind.suggestion operator).map BranchKind.operator = some word ↔
        word ∈ BranchKind.all.map BranchKind.operator ∧ IsNear operator word) ∧
    (∀ (operator : String) (kind other : BranchKind), IsNear operator kind.operator →
      IsNear operator other.operator → kind = other) ∧
    ∀ kinds : List BranchKind, kinds.Perm BranchKind.all → ∀ operator : String,
      BranchKind.nearest? kinds operator = BranchKind.suggestion operator := by
  refine ⟨fun operator word => ?_, fun operator kind other h h' => ?_,
    fun kinds hperm operator => ?_⟩
  · rw [Option.map_eq_some_iff, List.mem_map]
    constructor
    · rintro ⟨kind, hkind, rfl⟩
      obtain ⟨hmem, hnear⟩ := BranchKind.nearest?_eq_some_iff.mp hkind
      exact ⟨⟨kind, hmem, rfl⟩, isNear_iff.mpr hnear⟩
    · rintro ⟨⟨kind, hmem, rfl⟩, hnear⟩
      exact ⟨kind, BranchKind.nearest?_eq_some_iff.mpr ⟨hmem, isNear_iff.mp hnear⟩, rfl⟩
  · exact BranchKind.eq_of_near (isNear_iff.mp h) (isNear_iff.mp h')
  · refine Option.ext fun kind => ?_
    rw [BranchKind.suggestion, BranchKind.nearest?_eq_some_iff, BranchKind.nearest?_eq_some_iff,
      hperm.mem_iff]

/-- An operator with accents on two letters, and the operators listed the other way round. -/
theorem suggestion_isTheNearOne_accents :
    BranchKind.suggestion "sélèct" = some .select ∧
      IsNear "sélèct" BranchKind.select.operator ∧
      (∀ other : BranchKind, IsNear "sélèct" other.operator → BranchKind.select = other) ∧
      [BranchKind.select, .plural].Perm BranchKind.all ∧
      BranchKind.nearest? [.select, .plural] "sélèct" = some .select := by
  have hsuggested : BranchKind.suggestion "sélèct" = some .select := by decide
  have hnear : IsNear "sélèct" BranchKind.select.operator :=
    ((suggestion_isTheNearOne.1 "sélèct" "select").mp (by decide)).2
  have hperm : [BranchKind.select, .plural].Perm BranchKind.all := List.Perm.swap _ _ _
  refine ⟨hsuggested, hnear, ?_, hperm, ?_⟩
  · intro other hother
    exact suggestion_isTheNearOne.2.1 "sélèct" .select other hnear hother
  · rw [suggestion_isTheNearOne.2.2 _ hperm, hsuggested]

end MessageTemplate
