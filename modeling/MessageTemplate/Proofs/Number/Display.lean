/-
What the text of a number is read as.

A number is shown with the fewest digits that read back, so reading its text gives the number
again (`Binary64.read?_display`), except that the two zeros have one text.  The text of an
integer reads back as the number nearest to it.

The number nearest to an integer is a whole number, and is shown as one: with the digits of an
integer that is rounded to the same number.  Up to `2 ^ 53` this is the integer itself.
-/
import MessageTemplate.Proofs.Number.Digits
import MessageTemplate.Text.Blank

namespace MessageTemplate

/-! ### Plain characters -/

/-- Whether a character is one of an unsigned decimal fraction without an exponent. -/
def isPlain (c : Char) : Bool :=
  c.isDigit || c == '.'

theorem isPlain_of_isDigit {c : Char} (h : c.isDigit = true) : isPlain c = true := by
  simp [isPlain, h]

theorem isPlain_bounds {c : Char} (h : isPlain c = true) : 46 ≤ c.toNat ∧ c.toNat ≤ 57 := by
  rcases Bool.or_eq_true_iff.mp h with hdigit | hpoint
  · have hbounds : 48 ≤ c.val ∧ c.val ≤ 57 := by simpa [Char.isDigit] using hdigit
    have hlow : 48 ≤ c.toNat := UInt32.le_iff_toNat_le.mp hbounds.1
    exact ⟨by omega, UInt32.le_iff_toNat_le.mp hbounds.2⟩
  · obtain rfl : c = '.' := beq_iff_eq.mp hpoint
    decide

theorem isBlank_of_isPlain {c : Char} (h : isPlain c = true) : isBlank c = false := by
  have := isPlain_bounds h
  simp only [isBlank, Bool.or_eq_false_iff, Bool.and_eq_false_iff, decide_eq_false_iff_not,
    beq_eq_false_iff_ne]
  omega

theorem toLower_of_isPlain {c : Char} (h : isPlain c = true) : c.toLower = c := by
  unfold Char.toLower
  rw [dif_neg]
  rintro ⟨hupper, -⟩
  have hlarge : 65 ≤ c.toNat := UInt32.le_iff_toNat_le.mp hupper
  have := (isPlain_bounds h).2
  omega

theorem isBlank_signed (negative : Bool) {text : String}
    (h : ∀ c ∈ text.toList, isPlain c = true) :
    ∀ c ∈ ((if negative then "-" else "") ++ text).toList, isBlank c = false := by
  intro c hc
  rw [String.toList_append, List.mem_append] at hc
  rcases hc with hsign | hplain
  · split at hsign
    · obtain rfl : c = '-' := by simpa using hsign
      rfl
    · simp at hsign
  · exact isBlank_of_isPlain (h c hplain)

/-- A text without blanks is not trimmed. -/
theorem trimBlanks_of_forall {text : String} (h : ∀ c ∈ text.toList, isBlank c = false) :
    trimBlanks text = text := by
  have hkept : ∀ chars : List Char, (∀ c ∈ chars, isBlank c = false) →
      chars.dropWhile isBlank = chars := by
    intro chars hchars
    cases chars with
    | nil => rfl
    | cons c rest => exact List.dropWhile_cons_of_neg (by simp [hchars c List.mem_cons_self])
  rw [trimBlanks, hkept _ h, hkept _ (by simpa using h), List.reverse_reverse, String.ofList_toList]

namespace NumberStyle

theorem isPlain_placed {digits : List Char} (hdigits : ∀ c ∈ digits, c.isDigit = true)
    (point : Int) : ∀ c ∈ (template.placed digits point).toList, isPlain c = true := by
  have hplain : ∀ c ∈ digits, isPlain c = true := fun c hc => isPlain_of_isDigit (hdigits c hc)
  have hzero : isPlain '0' = true := rfl
  have hpoint : isPlain '.' = true := rfl
  intro c hc
  unfold placed at hc
  split at hc
  · simp only [String.toList_ofList, List.cons_append, List.mem_cons, List.mem_append,
      List.mem_replicate] at hc
    rcases hc with rfl | rfl | ⟨-, rfl⟩ | hc
    · exact hzero
    · exact hpoint
    · exact hzero
    · exact hplain c hc
  · split at hc
    · simp only [template, String.append_empty, String.toList_ofList, List.mem_append,
        List.mem_replicate] at hc
      rcases hc with hc | ⟨-, rfl⟩
      · exact hplain c hc
      · exact hzero
    · simp only [String.toList_ofList, List.mem_append, List.mem_cons] at hc
      rcases hc with hc | rfl | hc
      · exact hplain c (List.mem_of_mem_take hc)
      · exact hpoint
      · exact hplain c (List.mem_of_mem_drop hc)

theorem isPlain_magnitude (rank : Nat) :
    ∀ c ∈ (template.magnitude rank).toList, isPlain c = true := by
  by_cases hrank : rank = 0
  · rw [hrank]
    exact List.all_eq_true.mp (by decide)
  · obtain ⟨n, power, -, -, htext⟩ := exists_magnitude_eq hrank
    rw [htext]
    exact isPlain_placed (isDigit_toDigits n) _

end NumberStyle

/-! ### Reading back -/

/-- Digits and points are no word and no sign, so a decimal fraction is all they can be. -/
theorem Numeral.read?_signed {text : String} (htext : ∀ c ∈ text.toList, isPlain c = true)
    (negative : Bool) :
    read? ((if negative then "-" else "") ++ text)
      = (readDecimal? text.toList).map (finite negative) := by
  have hsign : splitSign ((if negative then "-" else "") ++ text).toList
      = (negative, text.toList) := by
    cases negative with
    | true => simp [splitSign]
    | false =>
        rw [if_neg (by decide), String.empty_append]
        unfold splitSign
        split
        · rename_i hminus
          exact absurd (htext '-' (by simp [hminus])) (by decide)
        · rename_i hplus
          exact absurd (htext '+' (by simp [hplus])) (by decide)
        · rfl
  have hlower : text.toList.map Char.toLower = text.toList := by
    conv_rhs => rw [← List.map_id text.toList]
    exact List.map_congr_left fun c hc => toLower_of_isPlain (htext c hc)
  have hword : ∀ word : String, (∃ c ∈ word.toList, isPlain c = false) →
      (text.toList == word.toList) = false := by
    rintro word ⟨c, hc, hplain⟩
    rw [beq_eq_false_iff_ne]
    intro heq
    rw [htext c (heq ▸ hc)] at hplain
    exact absurd hplain (by decide)
  rw [read?, hsign]
  dsimp only
  rw [hlower, hword "inf" ⟨'i', by decide, rfl⟩, hword "infinity" ⟨'i', by decide, rfl⟩,
    hword "nan" ⟨'n', by decide, rfl⟩]
  rfl

/-- **The text of a magnitude is read as the magnitude.** -/
theorem NumberStyle.exists_readDecimal?_magnitude {rank : Nat}
    (hrank : rank < BinaryFormat.double.infinityRank) :
    ∃ decimal, Numeral.readDecimal? (template.magnitude rank).toList = some decimal ∧
      decimal.nearestRank .double = rank := by
  by_cases hzero : rank = 0
  · rw [hzero]
    exact ⟨{ significand := 0, exponent := 0 }, rfl, rfl⟩
  · obtain ⟨n, power, -, hvalue, htext⟩ := exists_magnitude_eq hzero
    obtain ⟨decimal, hread, hexponent, hsame⟩ :=
      Numeral.readDecimal?_placed Nat.toDigits_ne_nil (isDigit_toDigits n) power
    have hback := beq_iff_eq.mp (Shortest.readsBack_decimal template.tie rank)
    refine ⟨decimal, by rw [htext, hread], ?_⟩
    calc decimal.nearestRank .double
        = (Shortest.decimal template.tie rank).nearestRank .double := by
          refine Decimal.nearestRank_congr (by omega) (Decimal.exponent_le hzero hrank hback) ?_
          rw [hsame, hvalue, Numeral.digitsValue_toDigits]
      _ = rank := hback

namespace Binary64

theorem ofRank_of_lt (negative : Bool) {rank : Nat} (h : rank < BinaryFormat.double.infinityRank) :
    ofRank negative rank = finite negative ⟨rank, h⟩ :=
  dif_pos h

/-- The number that the text of a number stands for, which is no minus zero. -/
def shown : Binary64 → Binary64
  | finite negative rank => finite (negative && rank.val != 0) rank
  | x => x

/-- **The text of a number reads back.** -/
theorem read?_display (x : Binary64) : read? x.display = some x.shown := by
  cases x with
  | nan => rfl
  | infinite negative => cases negative <;> rfl
  | finite negative rank =>
      obtain ⟨decimal, hread, hrank⟩ := NumberStyle.exists_readDecimal?_magnitude rank.isLt
      rw [read?, display, NumberStyle.signed,
        Numeral.read?_signed (NumberStyle.isPlain_magnitude rank.val), hread]
      simp only [Option.map_some, ofNumeral, hrank, ofRank_of_lt _ rank.isLt, shown]

theorem isBlank_display (x : Binary64) : ∀ c ∈ x.display.toList, isBlank c = false := by
  cases x with
  | nan => simp [display, isBlank]
  | infinite negative => cases negative <;> simp [display, isBlank]
  | finite negative rank => exact isBlank_signed _ (NumberStyle.isPlain_magnitude rank.val)

@[simp] theorem shown_display (x : Binary64) : x.shown.display = x.display := by
  cases x with
  | nan => rfl
  | infinite negative => rfl
  | finite negative rank => simp [shown, display]

end Binary64

/-! ### Integers -/

theorem isPlain_ofList_toDigits (n : Nat) :
    ∀ c ∈ (String.ofList (Nat.toDigits 10 n)).toList, isPlain c = true := by
  rw [String.toList_ofList]
  exact fun c hc => isPlain_of_isDigit (isDigit_toDigits n c hc)

theorem integerText_eq (n : Int) : integerText n
    = (if decide (n < 0) then "-" else "") ++ String.ofList (Nat.toDigits 10 n.natAbs) := by
  by_cases h : n < 0 <;> simp [integerText, h]

/-- The number nearest to a whole number, written as a decimal without places. -/
theorem Decimal.nearestRank_whole (n : Nat) :
    ({ significand := n, exponent := 0 } : Decimal).nearestRank .double
      = BinaryFormat.double.nearestRank n 1 :=
  nearestRank_eq (show (0 : Int) ≤ 400 by decide) Nat.one_pos (by simp [value])

/-- **The text of an integer reads back as the number nearest to it.** -/
theorem Binary64.read?_integerText (n : Int) : read? (integerText n) = some (ofInt n) := by
  rw [read?, integerText_eq, Numeral.read?_signed (isPlain_ofList_toDigits _), String.toList_ofList,
    Numeral.readDecimal?_whole Nat.toDigits_ne_nil (isDigit_toDigits _)]
  simp only [Option.map_some, Numeral.digitsValue_toDigits, ofNumeral, Decimal.nearestRank_whole,
    ofInt, ofRatio]

theorem isBlank_integerText (n : Int) : ∀ c ∈ (integerText n).toList, isBlank c = false := by
  rw [integerText_eq]
  exact isBlank_signed _ (isPlain_ofList_toDigits n.natAbs)

/-! ### Integers as numbers -/

namespace BinaryFormat

theorem nearestRank_eq_zero_iff {n : Nat} : double.nearestRank n 1 = 0 ↔ n = 0 := by
  constructor
  · intro h
    exact nearestRank_injective (Nat.mul_pos Nat.two_pos double.significands_pos)
      (h.trans (double.nearestRank_zero 1).symm)
  · rintro rfl
    exact double.nearestRank_zero 1

/-- The integers of sixty-four bits are far below infinity. -/
theorem nearestRank_lt_infinityRank {n : Nat} (h : n ≤ 2 ^ 63) :
    double.nearestRank n 1 < double.infinityRank := by
  by_cases hn : n = 0
  · rw [nearestRank_eq_zero_iff.mpr hn]
    exact Nat.mul_pos (by decide) double.significands_pos
  · have hlog : n.log2 < 64 := (Nat.log2_lt hn).mpr (by omega)
    have hfraction : double.fractionBits = 52 := rfl
    have hunit : double.unitExponent = 1074 := rfl
    have hshift : double.shiftOf n 1 + 2 < 2047 := by
      rw [double.shiftOf_whole hn]
      omega
    have hrounded := double.hasSignificand_nearestRank n 1
    calc double.nearestRank n 1
        ≤ double.shiftOf n 1 * double.significands + 2 * double.significands := by
          rw [hrounded.rank]
          exact Nat.add_le_add_left hrounded.le _
      _ = (double.shiftOf n 1 + 2) * double.significands := (Nat.add_mul ..).symm
      _ < double.infinityRank := Nat.mul_lt_mul_of_pos_right hshift double.significands_pos

end BinaryFormat

/-- **The magnitude nearest to a whole number is shown as a whole number** that is rounded to the
same magnitude. -/
theorem NumberStyle.exists_magnitude_whole {n : Nat} (h : n ≤ 2 ^ 63) :
    ∃ m, template.magnitude (BinaryFormat.double.nearestRank n 1)
        = String.ofList (Nat.toDigits 10 m) ∧
      BinaryFormat.double.nearestRank m 1 = BinaryFormat.double.nearestRank n 1 := by
  by_cases hn : n = 0
  · exact ⟨0, by rw [hn, BinaryFormat.nearestRank_zero]; rfl, by rw [hn]⟩
  · have hlt := BinaryFormat.nearestRank_lt_infinityRank h
    have hrank : BinaryFormat.double.nearestRank n 1 ≠ 0 :=
      fun hzero => hn (BinaryFormat.nearestRank_eq_zero_iff.mp hzero)
    have hunits := BinaryFormat.double.nearestRank_units (BinaryFormat.double.nearestRank n 1)
    obtain ⟨whole, hwhole⟩ := BinaryFormat.double.one_dvd_units_nearestRank n
    rw [Nat.mul_comm] at hwhole
    have hpositive : whole ≠ 0 := by
      rintro rfl
      rw [hwhole, Nat.zero_mul, BinaryFormat.nearestRank_zero] at hunits
      exact hrank hunits.symm
    obtain ⟨m, hm⟩ := Shortest.exists_value_decimal template.tie hpositive hwhole
    have hback := beq_iff_eq.mp
      (Shortest.readsBack_decimal template.tie (BinaryFormat.double.nearestRank n 1))
    refine ⟨m, magnitude_eq_toDigits hrank hm, ?_⟩
    rw [← Decimal.nearestRank_eq (Decimal.exponent_le hrank hlt hback) Nat.one_pos
      (hm.trans (by simp))]
    exact hback

namespace Binary64

/-- The number nearest to an integer has the sign of the integer. -/
theorem display_ofInt {n : Int} (h : n.natAbs ≤ 2 ^ 63) :
    (ofInt n).display = (if decide (n < 0) then "-" else "")
      ++ NumberStyle.template.magnitude (BinaryFormat.double.nearestRank n.natAbs 1) := by
  have hsign : (decide (n < 0) && BinaryFormat.double.nearestRank n.natAbs 1 != 0)
      = decide (n < 0) := by
    by_cases hn : n < 0
    · have hrank : BinaryFormat.double.nearestRank n.natAbs 1 ≠ 0 := by
        rw [Ne, BinaryFormat.nearestRank_eq_zero_iff]
        omega
      simp [hn, hrank]
    · simp [hn]
  rw [ofInt, ofRatio, ofRank_of_lt _ (BinaryFormat.nearestRank_lt_infinityRank h), display,
    NumberStyle.signed, hsign]

/-- **The number nearest to an integer is shown with the digits of an integer**, which is rounded
to the same number. -/
theorem exists_display_ofInt {n : Int} (h : n.natAbs ≤ 2 ^ 63) :
    ∃ m, (ofInt n).display = integerText m ∧ ofInt m = ofInt n := by
  obtain ⟨k, htext, hrank⟩ := NumberStyle.exists_magnitude_whole h
  have hzero : k = 0 ↔ n.natAbs = 0 := by
    rw [← BinaryFormat.nearestRank_eq_zero_iff, hrank, BinaryFormat.nearestRank_eq_zero_iff]
  obtain ⟨m, habs, hsign⟩ : ∃ m : Int, m.natAbs = k ∧ decide (m < 0) = decide (n < 0) := by
    rcases lt_or_ge n 0 with hn | hn
    · exact ⟨-k, by omega, by simp only [decide_eq_decide]; omega⟩
    · exact ⟨k, by omega, by simp only [decide_eq_decide]; omega⟩
  refine ⟨m, ?_, ?_⟩
  · rw [display_ofInt h, htext, integerText_eq, habs, hsign]
  · simp only [ofInt, ofRatio, habs, hsign, hrank]

theorem ofRank_injective {negative other : Bool} {rank more : Nat}
    (hrank : rank < BinaryFormat.double.infinityRank)
    (h : ofRank other more = ofRank negative rank) : other = negative ∧ more = rank := by
  rw [ofRank_of_lt negative hrank, ofRank] at h
  split at h
  · simpa using h
  · exact absurd h (by simp)

/-- **Below `2 ^ 53`, an integer is told from the number nearest to it.** -/
theorem ofInt_injective {m n : Int} (hn : n.natAbs < 2 ^ 53) (h : ofInt m = ofInt n) : m = n := by
  have hlt := BinaryFormat.nearestRank_lt_infinityRank (n := n.natAbs) (by omega)
  obtain ⟨hsign, hrank⟩ := ofRank_injective hlt h
  have habs := BinaryFormat.nearestRank_injective hn hrank
  simp only [decide_eq_decide] at hsign
  omega

/-- **Integers up to `2 ^ 53` are shown as themselves**, also when they are taken as numbers. -/
theorem display_ofInt_of_le {n : Int} (h : n.natAbs ≤ 2 ^ 53) :
    (ofInt n).display = integerText n := by
  rcases Nat.lt_or_eq_of_le h with hlt | heq
  · obtain ⟨m, htext, hm⟩ := exists_display_ofInt (n := n) (by omega)
    rw [htext, ofInt_injective hlt hm]
  · -- The greatest such integer has a neighbour that is rounded to it.
    have hboth : (ofInt 9007199254740992).display = integerText 9007199254740992 ∧
        (ofInt (-9007199254740992)).display = integerText (-9007199254740992) := by
      decide +kernel
    rcases Int.natAbs_eq n with hpos | hneg
    · obtain rfl : n = 9007199254740992 := by omega
      exact hboth.1
    · obtain rfl : n = -9007199254740992 := by omega
      exact hboth.2

end Binary64

end MessageTemplate
