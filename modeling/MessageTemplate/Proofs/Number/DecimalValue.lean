/-
The decimal that is chosen for a magnitude reads back.

A decimal stands for a rational number, and rounding it to double precision depends on that
number alone, also where the size of the decimal decides (`Decimal.nearestRank_eq`).  A decimal
is chosen on a grid only if it reads back, and the exact expansion, which is taken if no grid
has one, is the magnitude itself.

A magnitude that is a whole number gets a decimal that is a whole number, since the grid of
whole numbers has a hit and finer grids come later.
-/
import MessageTemplate.Number.Shortest
import MessageTemplate.Proofs.Number.Rounding
import Mathlib.Algebra.Order.Field.Power
import Mathlib.Data.Nat.Digits.Defs
import Mathlib.Tactic.FieldSimp

namespace MessageTemplate

namespace Decimal

/-- The number that a decimal stands for. -/
def value (decimal : Decimal) : ℚ :=
  decimal.significand * 10 ^ decimal.exponent

/-- What is told to be nothing by its size is less than half of a unit. -/
theorem tiny_of_log2_lt {significand places : Nat} (h : significand.log2 + 1101 < 3 * places) :
    2 * (significand * BinaryFormat.double.one) < 10 ^ places := by
  have hunit : BinaryFormat.double.unitExponent = 1074 := rfl
  have hlt : significand < 2 ^ (significand.log2 + 1) := Nat.lt_log2_self
  calc 2 * (significand * BinaryFormat.double.one)
      = significand * 2 ^ (BinaryFormat.double.unitExponent + 1) := by
        rw [BinaryFormat.one, Nat.pow_eq]
        ring
    _ < 2 ^ (significand.log2 + 1) * 2 ^ (BinaryFormat.double.unitExponent + 1) :=
        Nat.mul_lt_mul_of_pos_right hlt (Nat.two_pow_pos _)
    _ = 2 ^ (significand.log2 + 1 + (BinaryFormat.double.unitExponent + 1)) := by
        rw [← Nat.pow_add]
    _ ≤ 2 ^ (3 * places) := Nat.pow_le_pow_right (by decide) (by omega)
    _ = 8 ^ places := by rw [Nat.pow_mul]
    _ ≤ 10 ^ places := Nat.pow_le_pow_left (by decide) places

/-- **Rounding a decimal depends on its value alone**, unless the decimal is told by its size to
be too large. -/
theorem nearestRank_eq {decimal : Decimal} {a b : Nat} (hexponent : decimal.exponent ≤ 400)
    (hb : 0 < b) (hvalue : decimal.value = a / b) :
    decimal.nearestRank .double = BinaryFormat.double.nearestRank a b := by
  have hbq : (b : ℚ) ≠ 0 := by exact_mod_cast hb.ne'
  obtain ⟨significand, exponent⟩ := decimal
  rw [value, eq_div_iff hbq] at hvalue
  cases exponent with
  | ofNat places =>
      have hsame : significand * 10 ^ places * b = a * 1 := by
        rw [Int.ofNat_eq_natCast, zpow_natCast] at hvalue
        exact_mod_cast hvalue.trans (mul_one (a : ℚ)).symm
      have hplaces : ¬400 < places := by simpa using hexponent
      rw [nearestRank]
      simp only [hplaces, if_false]
      by_cases hzero : significand = 0
      · obtain rfl : a = 0 := by simpa [hzero] using hsame.symm
        simp [hzero]
      · rw [if_neg hzero]
        exact BinaryFormat.double.nearestRank_congr (by decide) hb hsame
  | negSucc places =>
      have hsame : significand * b = a * 10 ^ (places + 1) := by
        have hscaled : (significand * b : ℚ) = a * 10 ^ (places + 1) := by
          rw [← hvalue, zpow_negSucc]
          field_simp
        exact_mod_cast hscaled
      have hround : BinaryFormat.double.nearestRank significand (Nat.pow 10 (places + 1))
          = BinaryFormat.double.nearestRank a b :=
        BinaryFormat.double.nearestRank_congr (Nat.pow_pos (by decide)) hb hsame
      rw [nearestRank]
      by_cases htiny : significand.log2 + 1101 < 3 * (places + 1)
      · simp only [htiny, if_true]
        exact (BinaryFormat.double.nearestRank_of_tiny (tiny_of_log2_lt htiny)).symm.trans hround
      · simp only [htiny, if_false]
        exact hround

/-- Decimals of one value are rounded alike. -/
theorem nearestRank_congr {first second : Decimal} (hfirst : first.exponent ≤ 400)
    (hsecond : second.exponent ≤ 400) (hvalue : first.value = second.value) :
    first.nearestRank .double = second.nearestRank .double := by
  obtain ⟨a, b, hb, hratio⟩ : ∃ a b : Nat, 0 < b ∧ second.value = a / b := by
    obtain ⟨significand, exponent⟩ := second
    cases exponent with
    | ofNat places =>
        refine ⟨significand * 10 ^ places, 1, Nat.one_pos, ?_⟩
        rw [value, Int.ofNat_eq_natCast, zpow_natCast]
        push_cast
        rw [div_one]
    | negSucc places =>
        refine ⟨significand, 10 ^ (places + 1), Nat.pow_pos (by decide), ?_⟩
        rw [value, zpow_negSucc]
        push_cast
        rw [div_eq_mul_inv]
  rw [nearestRank_eq hfirst hb (hvalue.trans hratio), nearestRank_eq hsecond hb hratio]

/-- A decimal that is told by its size to be too large is no magnitude. -/
theorem exponent_le {decimal : Decimal} {rank : Nat} (hpos : rank ≠ 0)
    (hrank : rank < BinaryFormat.double.infinityRank)
    (h : decimal.nearestRank .double = rank) : decimal.exponent ≤ 400 := by
  obtain ⟨significand, exponent⟩ := decimal
  cases exponent with
  | negSucc places => exact (Int.negSucc_lt_zero places).le.trans (by decide)
  | ofNat places =>
      by_contra hlarge
      have hplaces : 400 < places := by simpa using hlarge
      simp only [nearestRank, hplaces, if_true] at h
      by_cases hzero : significand = 0
      · simp [hzero] at h
        omega
      · simp [hzero] at h
        omega

/-- No decimal of a positive magnitude is zero. -/
theorem significand_ne_zero {decimal : Decimal} {rank : Nat} (hpos : rank ≠ 0)
    (h : decimal.nearestRank .double = rank) : decimal.significand ≠ 0 := by
  obtain ⟨significand, exponent⟩ := decimal
  rintro (rfl : significand = 0)
  cases exponent <;> simp [nearestRank, hpos.symm] at h

end Decimal

namespace Shortest

variable {tie : TieRule} {rank : Nat}

/-- The magnitude of a rank is rounded to it, as a decimal of any form. -/
theorem readsBack_of_value {decimal : Decimal} (hexponent : decimal.exponent ≤ 400)
    (hvalue : decimal.value = BinaryFormat.double.units rank / BinaryFormat.double.one) :
    readsBack rank decimal = true := by
  rw [readsBack, beq_iff_eq, Decimal.nearestRank_eq hexponent BinaryFormat.double.one_pos hvalue]
  exact BinaryFormat.double.nearestRank_units rank

/-- The exact expansion has the value of the magnitude. -/
theorem exact_value (rank : Nat) :
    (exact rank).value = BinaryFormat.double.units rank / BinaryFormat.double.one := by
  have hten : ∀ n : Nat, (10 : ℚ) ^ n = 2 ^ n * 5 ^ n := by
    intro n
    rw [← mul_pow]
    norm_num
  have hone : BinaryFormat.double.one = 2 ^ BinaryFormat.double.unitExponent := by
    rw [BinaryFormat.one, Nat.pow_eq]
  rw [exact, Decimal.value, zpow_neg, zpow_natCast, hten, hone]
  generalize BinaryFormat.double.unitExponent = places
  push_cast [Nat.pow_eq]
  field_simp

/-- Of two neighbours one that reads back is taken, if there is one. -/
theorem taken {low high decimal : Decimal} {takeLow : Bool}
    (h : (match readsBack rank low, readsBack rank high with
      | true, true => some (if takeLow then low else high)
      | true, false => some low
      | false, true => some high
      | false, false => none) = some decimal) :
    readsBack rank decimal = true ∧ (decimal = low ∨ decimal = high) := by
  split at h
  case h_1 hlow hhigh =>
    obtain rfl := Option.some.inj h
    cases takeLow
    · exact ⟨hhigh, Or.inr rfl⟩
    · exact ⟨hlow, Or.inl rfl⟩
  case h_2 hlow hhigh =>
    obtain rfl := Option.some.inj h
    exact ⟨hlow, Or.inl rfl⟩
  case h_3 hlow hhigh =>
    obtain rfl := Option.some.inj h
    exact ⟨hhigh, Or.inr rfl⟩
  case h_4 => exact absurd h (by simp)

theorem isSome_taken {low high : Decimal} {takeLow : Bool} (hlow : readsBack rank low = true) :
    (match readsBack rank low, readsBack rank high with
      | true, true => some (if takeLow then low else high)
      | true, false => some low
      | false, true => some high
      | false, false => none).isSome = true := by
  rw [hlow]
  cases readsBack rank high <;> rfl

/-- What a grid gives reads back and lies on the grid. -/
theorem onGrid?_eq_some {exponent : Int} {decimal : Decimal}
    (h : onGrid? tie rank exponent = some decimal) :
    readsBack rank decimal = true ∧ decimal.exponent = exponent := by
  cases exponent with
  | ofNat places =>
      obtain ⟨hreads, rfl | rfl⟩ := taken h
      · exact ⟨hreads, rfl⟩
      · exact ⟨hreads, rfl⟩
  | negSucc places =>
      obtain ⟨hreads, rfl | rfl⟩ := taken h
      · exact ⟨hreads, rfl⟩
      · exact ⟨hreads, rfl⟩

/-- **The decimal that is chosen reads back.** -/
theorem readsBack_decimal (tie : TieRule) (rank : Nat) :
    readsBack rank (decimal tie rank) = true := by
  rw [decimal]
  cases hfound : (List.range 17).findSome? fun more : Nat =>
      onGrid? tie rank (leadingExponent rank - more) with
  | none =>
      rw [Option.getD_none]
      exact readsBack_of_value (show (-1074 : Int) ≤ 400 by decide) (exact_value rank)
  | some found =>
      obtain ⟨more, -, hgrid⟩ := List.exists_of_findSome?_eq_some hfound
      exact (onGrid?_eq_some hgrid).1

/-! ### Whole numbers -/

variable {m : Nat}

/-- The value of a magnitude that is a whole number. -/
theorem value_of_whole (hwhole : BinaryFormat.double.units rank = m * BinaryFormat.double.one) :
    (BinaryFormat.double.units rank / BinaryFormat.double.one : ℚ) = m := by
  have hone : (BinaryFormat.double.one : ℚ) ≠ 0 := by
    exact_mod_cast BinaryFormat.double.one_pos.ne'
  rw [hwhole, Nat.cast_mul, mul_div_cancel_right₀ _ hone]

/-- The lower neighbour on the grid of whole numbers is the whole number itself. -/
theorem readsBack_whole (hwhole : BinaryFormat.double.units rank = m * BinaryFormat.double.one) :
    readsBack rank
      { significand := BinaryFormat.double.units rank / (BinaryFormat.double.one * Nat.pow 10 0)
        exponent := .ofNat 0 } = true := by
  have hquotient :
      BinaryFormat.double.units rank / (BinaryFormat.double.one * Nat.pow 10 0) = m := by
    rw [hwhole, Nat.pow_eq, pow_zero, Nat.mul_one, Nat.mul_div_cancel m BinaryFormat.double.one_pos]
  rw [hquotient]
  refine readsBack_of_value (show (0 : Int) ≤ 400 by decide) ?_
  rw [value_of_whole hwhole]
  simp [Decimal.value]

/-- A grid has a hit if the lower neighbour reads back. -/
theorem isSome_onGrid? (tie : TieRule) {places : Nat}
    (hlow : readsBack rank
      { significand :=
          BinaryFormat.double.units rank / (BinaryFormat.double.one * Nat.pow 10 places)
        exponent := .ofNat places } = true) :
    (onGrid? tie rank (.ofNat places)).isSome = true :=
  isSome_taken hlow

/-- The leading digit of a positive whole number is no digit behind the point. -/
theorem leadingExponent_nonneg (hm : m ≠ 0)
    (hwhole : BinaryFormat.double.units rank = m * BinaryFormat.double.one) :
    0 ≤ leadingExponent rank := by
  have hlength : ∀ places, 0 < places → ¬(Nat.toDigits 10
      (BinaryFormat.double.units rank * Nat.pow 10 places / BinaryFormat.double.one)).length
        ≤ places := by
    intro places hplaces
    rw [hwhole, Nat.mul_right_comm, Nat.mul_div_cancel _ BinaryFormat.double.one_pos, Nat.pow_eq,
      Nat.length_toDigits_le_iff (by decide) hplaces, Nat.not_lt]
    exact Nat.le_mul_of_pos_left _ (Nat.pos_of_ne_zero hm)
  have hdigits := hlength 400 (by decide)
  unfold leadingExponent
  dsimp only
  omega

/-- The first hit comes no later than the grid of whole numbers. -/
theorem exponent_nonneg {decimal : Decimal} (hm : m ≠ 0)
    (hwhole : BinaryFormat.double.units rank = m * BinaryFormat.double.one)
    (hfound : (List.range 17).findSome? (fun more : Nat =>
      onGrid? tie rank (leadingExponent rank - more)) = some decimal) : 0 ≤ decimal.exponent := by
  obtain ⟨before, more, after, hrange, hgrid, hnone⟩ := List.findSome?_eq_some_iff.mp hfound
  have hexponent := (onGrid?_eq_some hgrid).2
  by_contra hnegative
  obtain ⟨leading, hleading⟩ := Int.eq_ofNat_of_zero_le (leadingExponent_nonneg hm hwhole)
  have hearlier : leading < more := by omega
  have hmore : more < 17 := by
    rw [← List.mem_range, hrange]
    simp
  have hmem : leading ∈ before ++ more :: after := by
    rw [← hrange]
    simp only [List.mem_range]
    omega
  have hsorted : (before ++ more :: after).Pairwise (· < ·) := hrange ▸ List.pairwise_lt_range
  have hbefore : leading ∈ before := by
    rcases List.mem_append.mp hmem with hbefore | hlater
    · exact hbefore
    · rcases List.mem_cons.mp hlater with rfl | hafter
      · omega
      · have hlater := List.rel_of_pairwise_cons (List.pairwise_append.mp hsorted).2.1 hafter
        omega
  have hno := hnone leading hbefore
  rw [hleading, sub_self] at hno
  have hyes := isSome_onGrid? tie (readsBack_whole hwhole)
  have hzero : (0 : Int) = .ofNat 0 := rfl
  rw [← hzero, hno] at hyes
  exact absurd hyes (by simp)

/-- **The decimal that is chosen for a whole number is a whole number.** -/
theorem exists_value_decimal (tie : TieRule) (hm : m ≠ 0)
    (hwhole : BinaryFormat.double.units rank = m * BinaryFormat.double.one) :
    ∃ n : Nat, (decimal tie rank).value = n := by
  rw [decimal]
  cases hfound : (List.range 17).findSome? fun more : Nat =>
      onGrid? tie rank (leadingExponent rank - more) with
  | none =>
      rw [Option.getD_none, exact_value, value_of_whole hwhole]
      exact ⟨m, rfl⟩
  | some found =>
      obtain ⟨places, hplaces⟩ := Int.eq_ofNat_of_zero_le (exponent_nonneg hm hwhole hfound)
      refine ⟨found.significand * 10 ^ places, ?_⟩
      rw [Option.getD_some, Decimal.value, hplaces, zpow_natCast]
      push_cast
      rfl

end Shortest

end MessageTemplate
