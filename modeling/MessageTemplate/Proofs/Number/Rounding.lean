/-
Rounding to a binary format.

A magnitude of a format has a significand and a power of two, and its rank is told from the
two (`HasSignificand`).  Rounding gives such a pair for every ratio.  It sees nothing of a ratio
but its value, and what needs no rounding stays as it is (`nearestRank_units`).

Whole numbers are rounded to whole numbers, and those that have at most one bit more than the
fraction of a significand are not changed at all.
-/
import MessageTemplate.Number.BinaryFormat
import Mathlib.Tactic.Ring

namespace MessageTemplate

/-! ### Quotients -/

theorem roundHalfEven_mul {k : Nat} (hk : 0 < k) (a b : Nat) :
    roundHalfEven (k * a) (k * b) = roundHalfEven a b := by
  have hmod : 2 * (k * a % (k * b)) = k * (2 * (a % b)) := by
    rw [Nat.mul_mod_mul_left]
    ring
  simp only [roundHalfEven, Nat.mul_div_mul_left _ _ hk, hmod, Nat.mul_lt_mul_left hk]

/-- A whole quotient is not rounded. -/
theorem roundHalfEven_mul_self (q : Nat) {d : Nat} (hd : 0 < d) : roundHalfEven (q * d) d = q := by
  simp [roundHalfEven, hd]

theorem roundHalfEven_bounds (a b : Nat) :
    a / b ≤ roundHalfEven a b ∧ roundHalfEven a b ≤ a / b + 1 := by
  simp only [roundHalfEven]
  split
  · omega
  · split <;> omega

namespace BinaryFormat

variable (format : BinaryFormat)

theorem significands_pos : 0 < format.significands :=
  Nat.pow_pos (by decide)

theorem two_mul_significands : 2 * format.significands = 2 ^ (format.fractionBits + 1) := by
  rw [significands, Nat.pow_eq, Nat.pow_succ']

theorem one_pos : 0 < format.one :=
  Nat.pow_pos (by decide)

/-! ### Significands -/

/-- **A rank by its significand and its power of two**.  Only the least power goes with small
significands; the greatest significand is the least one of the next power. -/
structure HasSignificand (rank significand shift : Nat) : Prop where
  rank : rank = shift * format.significands + significand
  full : shift = 0 ∨ format.significands ≤ significand
  le : significand ≤ 2 * format.significands

variable {format} {rank significand shift : Nat}

/-- The magnitude is the significand at its power of two. -/
theorem HasSignificand.units (h : format.HasSignificand rank significand shift) :
    format.units rank = significand * 2 ^ shift := by
  obtain ⟨rfl, hfull, hle⟩ := h
  have hpos := format.significands_pos
  rcases Nat.lt_or_ge significand format.significands with hsmall | hlarge
  · obtain rfl : shift = 0 := hfull.resolve_right (by omega)
    simp [BinaryFormat.units, Nat.div_eq_of_lt hsmall, Nat.mod_eq_of_lt hsmall]
  · obtain ⟨fraction, rfl⟩ := Nat.exists_eq_add_of_le hlarge
    rcases Nat.lt_or_ge fraction format.significands with hfraction | hfraction
    · have hrank : shift * format.significands + (format.significands + fraction)
          = fraction + format.significands * (shift + 1) := by ring
      rw [BinaryFormat.units, hrank, Nat.add_mul_div_left _ _ hpos, Nat.add_mul_mod_self_left,
        Nat.div_eq_of_lt hfraction, Nat.mod_eq_of_lt hfraction]
      simp
    · -- The greatest significand is counted with the next power.
      obtain rfl : fraction = format.significands := by omega
      have hrank : shift * format.significands + (format.significands + format.significands)
          = 0 + format.significands * (shift + 2) := by ring
      rw [BinaryFormat.units, hrank, Nat.add_mul_div_left _ _ hpos, Nat.add_mul_mod_self_left]
      simp only [Nat.zero_div, Nat.zero_mod, Nat.zero_add, Nat.add_zero, Nat.pow_eq,
        Nat.add_one_sub_one, Nat.succ_ne_zero, if_false]
      ring

/-- Every rank has a significand and a power of two. -/
theorem exists_hasSignificand (rank : Nat) : ∃ significand shift,
    format.HasSignificand rank significand shift ∧ significand < 2 * format.significands := by
  have hpos := format.significands_pos
  have hsplit := Nat.div_add_mod' rank format.significands
  have hmod := Nat.mod_lt rank hpos
  cases hexponent : rank / format.significands with
  | zero =>
      rw [hexponent, Nat.zero_mul, Nat.zero_add] at hsplit
      exact ⟨rank, 0, ⟨by omega, Or.inl rfl, by omega⟩, by omega⟩
  | succ shift =>
      rw [hexponent, Nat.add_mul, Nat.one_mul] at hsplit
      exact ⟨format.significands + rank % format.significands, shift,
        ⟨by omega, Or.inr (by omega), by omega⟩, by omega⟩

/-- The power of two to which a ratio is rounded. -/
def shiftOf (format : BinaryFormat) (numerator denominator : Nat) : Nat :=
  (numerator * format.one / denominator).log2 - format.fractionBits

/-- **A ratio is rounded at its power of two.** -/
theorem hasSignificand_nearestRank (a b : Nat) :
    format.HasSignificand (format.nearestRank a b)
      (roundHalfEven (a * format.one) (b * 2 ^ format.shiftOf a b)) (format.shiftOf a b) := by
  have hbounds := roundHalfEven_bounds (a * format.one) (b * 2 ^ format.shiftOf a b)
  rw [← Nat.div_div_eq_div_mul] at hbounds
  have hbelow : a * format.one / b < 2 ^ (format.shiftOf a b + (format.fractionBits + 1)) :=
    Nat.lt_log2_self.trans_le
      (Nat.pow_le_pow_right (by decide) (by simp only [shiftOf]; omega))
  have hlt : a * format.one / b / 2 ^ format.shiftOf a b < 2 * format.significands := by
    rw [format.two_mul_significands]
    exact Nat.div_lt_of_lt_mul (by rwa [← Nat.pow_add])
  refine ⟨rfl, ?_, by omega⟩
  by_cases hzero : format.shiftOf a b = 0
  · exact Or.inl hzero
  · refine Or.inr (le_trans ?_ hbounds.1)
    have hlog : (a * format.one / b).log2 = format.fractionBits + format.shiftOf a b := by
      simp only [shiftOf] at hzero ⊢
      omega
    have hne : a * format.one / b ≠ 0 := by
      intro hnone
      simp [shiftOf, hnone] at hzero
    rw [Nat.le_div_iff_mul_le (Nat.two_pow_pos _), significands, Nat.pow_eq, ← Nat.pow_add, ← hlog]
    exact Nat.log2_self_le hne

/-! ### Only the value counts -/

variable (format)

theorem nearestRank_mul {k : Nat} (hk : 0 < k) (a b : Nat) :
    format.nearestRank (k * a) (k * b) = format.nearestRank a b := by
  simp only [nearestRank, Nat.mul_assoc, Nat.mul_div_mul_left _ _ hk, roundHalfEven_mul hk]

/-- **Equal ratios are rounded alike.** -/
theorem nearestRank_congr {a b c d : Nat} (hb : 0 < b) (hd : 0 < d) (h : a * d = c * b) :
    format.nearestRank a b = format.nearestRank c d := by
  calc format.nearestRank a b = format.nearestRank (d * a) (d * b) :=
        (format.nearestRank_mul hd a b).symm
    _ = format.nearestRank (b * c) (b * d) := by
        rw [Nat.mul_comm d a, h, Nat.mul_comm c b, Nat.mul_comm d b]
    _ = format.nearestRank c d := format.nearestRank_mul hb c d

@[simp] theorem nearestRank_zero (b : Nat) : format.nearestRank 0 b = 0 := by
  simp [nearestRank, roundHalfEven]

/-- A ratio below half of a unit is rounded to nothing. -/
theorem nearestRank_of_tiny {a b : Nat} (h : 2 * (a * format.one) < b) :
    format.nearestRank a b = 0 := by
  have hdiv : a * format.one / b = 0 := Nat.div_eq_of_lt (by omega)
  have hmod : a * format.one % b = a * format.one := Nat.mod_eq_of_lt (by omega)
  simp [nearestRank, roundHalfEven, hdiv, hmod, h]

/-- **A magnitude of the format is not rounded.** -/
theorem nearestRank_units (rank : Nat) :
    format.nearestRank (format.units rank) format.one = rank := by
  obtain ⟨significand, shift, h, hlt⟩ := format.exists_hasSignificand rank
  have hone := format.one_pos
  have hdouble := format.two_mul_significands
  have hlog : (significand * 2 ^ shift).log2 - format.fractionBits = shift := by
    rcases h.full with rfl | hfull
    · have hsmall : significand.log2 < format.fractionBits + 1 := by
        by_cases hzero : significand = 0
        · simp [hzero]
        · exact (Nat.log2_lt hzero).mpr (by omega)
      simp only [Nat.pow_zero, Nat.mul_one]
      omega
    · have hpos := format.significands_pos
      have hpowers : (2 : Nat) ^ (format.fractionBits + shift) = format.significands * 2 ^ shift :=
        Nat.pow_add ..
      have hexact : (significand * 2 ^ shift).log2 = format.fractionBits + shift := by
        rw [Nat.log2_eq_iff (Nat.mul_pos (by omega) (Nat.two_pow_pos shift)).ne', Nat.pow_succ,
          hpowers]
        have hlow := Nat.mul_le_mul_right (2 ^ shift) hfull
        have hhigh := Nat.mul_lt_mul_of_pos_right hlt (Nat.two_pow_pos shift)
        rw [Nat.mul_assoc] at hhigh
        omega
      omega
  rw [h.units, nearestRank, Nat.mul_div_cancel _ hone, hlog]
  have hquotient : significand * 2 ^ shift * format.one
      = significand * (format.one * 2 ^ shift) := by ring
  rw [hquotient, Nat.pow_eq, roundHalfEven_mul_self _ (Nat.mul_pos hone (Nat.two_pow_pos _))]
  exact h.rank.symm

/-! ### Whole numbers -/

/-- The power of two to which a whole number is rounded. -/
theorem shiftOf_whole {n : Nat} (hn : n ≠ 0) :
    format.shiftOf n 1 = n.log2 + format.unitExponent - format.fractionBits := by
  have hlog : (n * format.one).log2 = n.log2 + format.unitExponent := by
    have hpowers : (2 : Nat) ^ (n.log2 + format.unitExponent) = 2 ^ n.log2 * format.one :=
      Nat.pow_add ..
    rw [Nat.log2_eq_iff (Nat.mul_pos (Nat.pos_of_ne_zero hn) format.one_pos).ne', Nat.pow_succ,
      hpowers]
    have hlow := Nat.mul_le_mul_right format.one (Nat.log2_self_le hn)
    have hhigh := Nat.mul_lt_mul_of_pos_right (Nat.lt_log2_self (n := n)) format.one_pos
    rw [Nat.pow_succ, Nat.mul_right_comm] at hhigh
    omega
  rw [shiftOf, Nat.div_one, hlog]

variable {format}

/-- A whole number that is a multiple of its power of two is not rounded. -/
theorem units_nearestRank_of_dvd {n : Nat} (h : 2 ^ format.shiftOf n 1 ∣ n * format.one) :
    format.units (format.nearestRank n 1) = n * format.one := by
  obtain ⟨significand, hsignificand⟩ := h
  rw [(hasSignificand_nearestRank n 1).units, hsignificand, Nat.one_mul,
    Nat.mul_comm (2 ^ _) significand, roundHalfEven_mul_self _ (Nat.two_pow_pos _)]

/-- **Whole numbers up to twice the number of significands are not rounded.** -/
theorem units_nearestRank_of_le {n : Nat} (h : n ≤ 2 * format.significands) :
    format.units (format.nearestRank n 1) = n * format.one := by
  apply units_nearestRank_of_dvd
  by_cases hn : n = 0
  · simp [hn]
  have hdouble := format.two_mul_significands
  rw [format.shiftOf_whole hn]
  rcases Nat.lt_or_eq_of_le h with hlt | rfl
  · have hlog : n.log2 < format.fractionBits + 1 := (Nat.log2_lt hn).mpr (by omega)
    exact Dvd.dvd.mul_left (Nat.pow_dvd_pow 2 (by omega)) n
  · rw [hdouble, Nat.log2_two_pow, one, Nat.pow_eq, ← Nat.pow_add]
    exact Nat.pow_dvd_pow 2 (by omega)

/-- Greater whole numbers are rounded to a power of two above the unit. -/
theorem unitExponent_lt_shiftOf {n : Nat} (h : 2 * format.significands ≤ n) :
    format.unitExponent < format.shiftOf n 1 := by
  have hpos := format.significands_pos
  have hn : n ≠ 0 := by omega
  have hlog : format.fractionBits + 1 ≤ n.log2 := by
    rw [Nat.le_log2 hn, Nat.pow_succ']
    exact h
  rw [format.shiftOf_whole hn]
  omega

/-- **A whole number is rounded to a whole number.** -/
theorem one_dvd_units_nearestRank (n : Nat) :
    format.one ∣ format.units (format.nearestRank n 1) := by
  rcases Nat.lt_or_ge n (2 * format.significands) with hlt | hge
  · rw [units_nearestRank_of_le (Nat.le_of_lt hlt)]
    exact Nat.dvd_mul_left ..
  · rw [(hasSignificand_nearestRank n 1).units]
    exact Dvd.dvd.mul_left (Nat.pow_dvd_pow 2 (unitExponent_lt_shiftOf hge).le) _

/-- No greater whole number is rounded to less. -/
theorem le_units_nearestRank {n : Nat} (h : 2 * format.significands ≤ n) :
    2 * format.significands * format.one ≤ format.units (format.nearestRank n 1) := by
  have hshift := unitExponent_lt_shiftOf h
  have hrounded := format.hasSignificand_nearestRank n 1
  have hfull := hrounded.full.resolve_left (by omega)
  calc 2 * format.significands * format.one
      = format.significands * 2 ^ (format.unitExponent + 1) := by
        rw [one, Nat.pow_eq]
        ring
    _ ≤ _ := Nat.mul_le_mul hfull (Nat.pow_le_pow_right (by decide) hshift)
    _ = format.units (format.nearestRank n 1) := hrounded.units.symm

/-- **Below twice the number of significands, a whole number is told from its rank.** -/
theorem nearestRank_injective {m n : Nat} (hn : n < 2 * format.significands)
    (h : format.nearestRank m 1 = format.nearestRank n 1) : m = n := by
  have hunits := units_nearestRank_of_le hn.le
  rw [← h] at hunits
  rcases Nat.lt_or_ge m (2 * format.significands) with hlt | hge
  · rw [units_nearestRank_of_le hlt.le] at hunits
    exact Nat.eq_of_mul_eq_mul_right format.one_pos hunits
  · have hle := le_units_nearestRank hge
    rw [hunits] at hle
    have := Nat.le_of_mul_le_mul_right hle format.one_pos
    omega

end BinaryFormat

end MessageTemplate
