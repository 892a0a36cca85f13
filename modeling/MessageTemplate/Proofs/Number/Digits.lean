/-
Digits in their places, and what they are read as.

The text of a magnitude depends on two numbers: one that is no multiple of ten and gives the
digits, and a power of ten that gives their place (`NumberStyle.exists_magnitude_eq`).  Read
back, the digits in their places have the value of these two (`Numeral.readDecimal?_placed`).  A
magnitude that is a whole number has the digits of that number.
-/
import MessageTemplate.Number.Layout
import MessageTemplate.Proofs.Number.DecimalValue
import Mathlib.Data.List.TakeWhile
import Mathlib.Data.Nat.Factorization.Basic

namespace MessageTemplate

/-! ### Digits of a number -/

/-- A power of ten puts zeros at the end. -/
theorem toDigits_mul_pow {n : Nat} (hn : n ≠ 0) (places : Nat) :
    Nat.toDigits 10 (n * 10 ^ places) = Nat.toDigits 10 n ++ List.replicate places '0' := by
  induction places with
  | zero => simp
  | succ places ih =>
      have hlarge : 10 ≤ n * 10 ^ (places + 1) := by
        rw [Nat.pow_succ, ← Nat.mul_assoc]
        exact Nat.le_mul_of_pos_left _ (by positivity)
      have hdiv : n * 10 ^ (places + 1) / 10 = n * 10 ^ places := by
        rw [Nat.pow_succ, ← Nat.mul_assoc, Nat.mul_div_cancel _ (by decide)]
      have hmod : n * 10 ^ (places + 1) % 10 = 0 := by
        rw [Nat.pow_succ, ← Nat.mul_assoc, Nat.mul_mod_left]
      rw [Nat.toDigits_of_base_le (by decide) hlarge, hdiv, hmod, ih, List.append_assoc,
        List.replicate_succ']
      rfl

/-- The last digit of a number that is no multiple of ten is not zero. -/
theorem toDigits_last {n : Nat} (h : ¬10 ∣ n) :
    ∃ digits c, Nat.toDigits 10 n = digits ++ [c] ∧ c ≠ '0' := by
  have hlast : ∀ d < 10, d ≠ 0 → Nat.digitChar d ≠ '0' := by decide
  have hne : n % 10 ≠ 0 := fun hzero => h (Nat.dvd_of_mod_eq_zero hzero)
  rcases Nat.lt_or_ge n 10 with hsmall | hlarge
  · refine ⟨[], _, Nat.toDigits_of_lt_base hsmall, hlast n hsmall ?_⟩
    omega
  · exact ⟨_, _, Nat.toDigits_of_base_le (by decide) hlarge, hlast _ (Nat.mod_lt _ (by decide)) hne⟩

/-- The digits of a number without the zeros at their end. -/
theorem dropZeros_toDigits {n : Nat} (h : ¬10 ∣ n) (places : Nat) :
    ((Nat.toDigits 10 n ++ List.replicate places '0').reverse.dropWhile (· == '0')).reverse
      = Nat.toDigits 10 n := by
  obtain ⟨digits, c, hdigits, hc⟩ := toDigits_last h
  rw [List.reverse_append, List.reverse_replicate, List.dropWhile_append_of_pos (by simp), hdigits,
    List.reverse_append, List.reverse_singleton, List.singleton_append,
    List.dropWhile_cons_of_neg (by simpa using hc), List.reverse_cons, List.reverse_reverse]

theorem isDigit_toDigits (n : Nat) : ∀ c ∈ Nat.toDigits 10 n, c.isDigit = true :=
  fun _ hc => Nat.isDigit_of_mem_toDigits (by decide) (by decide) hc

/-- Digits with zeros after them need no point. -/
theorem NumberStyle.placed_natCast {digits : List Char} (hne : digits ≠ []) (places : Nat) :
    template.placed digits (places + digits.length)
      = String.ofList (digits ++ List.replicate places '0') := by
  have hlength := List.length_pos_iff.mpr hne
  have hpoint : ¬(places + digits.length : Int) ≤ 0 := by omega
  have hwhole : (digits.length : Int) ≤ places + digits.length := by omega
  have hmore : ((places : Int) + digits.length).natAbs - digits.length = places := by omega
  rw [placed, if_neg hpoint, if_pos hwhole, hmore]
  exact String.append_empty

/-! ### Reading digits -/

namespace Numeral

@[simp] theorem digitsValue_toDigits (n : Nat) : digitsValue (Nat.toDigits 10 n) = n :=
  Nat.ofDigitChars_ten_toDigits

theorem digitsValue_append_zeros (digits : List Char) (places : Nat) :
    digitsValue (digits ++ List.replicate places '0') = digitsValue digits * 10 ^ places := by
  rw [digitsValue, Nat.ofDigitChars_append, Nat.ofDigitChars_replicate_zero, digitsValue,
    Nat.mul_comm]

theorem digitsValue_zeros_append (places : Nat) (digits : List Char) :
    digitsValue (List.replicate places '0' ++ digits) = digitsValue digits := by
  rw [digitsValue, Nat.ofDigitChars_append, Nat.ofDigitChars_replicate_zero, Nat.mul_zero,
    digitsValue]

/-- Digits alone are a whole number. -/
theorem readDecimal?_whole {digits : List Char} (hne : digits ≠ [])
    (hdigits : ∀ c ∈ digits, c.isDigit = true) :
    readDecimal? digits = some { significand := digitsValue digits, exponent := 0 } := by
  have htake : digits.takeWhile Char.isDigit = digits := List.takeWhile_eq_self_iff.mpr hdigits
  have hdrop : digits.dropWhile Char.isDigit = [] := List.dropWhile_eq_nil_iff.mpr hdigits
  simp [readDecimal?, htake, hdrop, hne, readExponent?]

/-- Digits with a point among them. -/
theorem readDecimal?_point {whole places : List Char} (hne : whole ≠ [])
    (hwhole : ∀ c ∈ whole, c.isDigit = true) (hplaces : ∀ c ∈ places, c.isDigit = true) :
    readDecimal? (whole ++ '.' :: places)
      = some { significand := digitsValue (whole ++ places), exponent := -places.length } := by
  have hpoint : ¬Char.isDigit '.' = true := by decide
  have htake : (whole ++ '.' :: places).takeWhile Char.isDigit = whole := by
    rw [List.takeWhile_append_of_pos hwhole, List.takeWhile_cons_of_neg hpoint, List.append_nil]
  have hdrop : (whole ++ '.' :: places).dropWhile Char.isDigit = '.' :: places := by
    rw [List.dropWhile_append_of_pos hwhole, List.dropWhile_cons_of_neg hpoint]
  have htakePlaces : places.takeWhile Char.isDigit = places :=
    List.takeWhile_eq_self_iff.mpr hplaces
  have hdropPlaces : places.dropWhile Char.isDigit = [] := List.dropWhile_eq_nil_iff.mpr hplaces
  simp [readDecimal?, htake, hdrop, htakePlaces, hdropPlaces, hne, readExponent?]

/-- **Digits in their places have the value of the digits and the place.** -/
theorem readDecimal?_placed {digits : List Char} (hne : digits ≠ [])
    (hdigits : ∀ c ∈ digits, c.isDigit = true) (power : Int) :
    ∃ decimal, readDecimal? (NumberStyle.template.placed digits (power + digits.length)).toList
        = some decimal ∧ decimal.exponent ≤ 0 ∧
      decimal.value = digitsValue digits * 10 ^ power := by
  have hzeros : ∀ places, ∀ c ∈ List.replicate places '0', c.isDigit = true := by
    intro places c hc
    obtain rfl := (List.mem_replicate.mp hc).2
    decide
  rcases lt_or_ge power 0 with hpower | hpower
  · by_cases hsmall : power + digits.length ≤ 0
    · -- A zero, the point and perhaps more zeros.
      have hall := List.forall_mem_append.mpr ⟨hzeros (power + digits.length).natAbs, hdigits⟩
      have hread := readDecimal?_point (List.cons_ne_nil '0' [])
        (List.forall_mem_singleton.mpr rfl) hall
      have hplaces : -((List.replicate (power + digits.length).natAbs '0' ++ digits).length : Int)
          = power := by
        rw [List.length_append, List.length_replicate]
        omega
      have hone : ['0'] = List.replicate 1 '0' := rfl
      rw [hone, digitsValue_zeros_append, digitsValue_zeros_append, hplaces] at hread
      rw [NumberStyle.placed, if_pos hsmall, String.toList_ofList]
      exact ⟨_, hread, hpower.le, rfl⟩
    · -- The point among the digits.
      obtain ⟨before, hbefore⟩ : ∃ before : Nat, power + digits.length = before :=
        Int.eq_ofNat_of_zero_le (by omega)
      have htake : digits.take before ≠ [] := by
        intro hnil
        rcases List.take_eq_nil_iff.mp hnil with hzero | hnil
        · omega
        · exact hne hnil
      have hafter : ∀ c ∈ digits.drop before, c.isDigit = true :=
        fun c hc => hdigits c (List.mem_of_mem_drop hc)
      have hfirst : ∀ c ∈ digits.take before, c.isDigit = true :=
        fun c hc => hdigits c (List.mem_of_mem_take hc)
      have hread := readDecimal?_point htake hfirst hafter
      have hplaces : -((digits.drop before).length : Int) = power := by
        rw [List.length_drop]
        omega
      have hnotWhole : ¬(digits.length : Int) ≤ power + digits.length := by omega
      rw [List.take_append_drop, hplaces] at hread
      rw [NumberStyle.placed, if_neg hsmall, if_neg hnotWhole, String.toList_ofList, hbefore,
        Int.natAbs_natCast]
      exact ⟨_, hread, hpower.le, rfl⟩
  · -- Zeros up to the point, and no point.
    obtain ⟨places, rfl⟩ := Int.eq_ofNat_of_zero_le hpower
    have hall := List.forall_mem_append.mpr ⟨hdigits, hzeros places⟩
    have hread := readDecimal?_whole (List.append_ne_nil_of_left_ne_nil hne _) hall
    rw [NumberStyle.placed_natCast hne, String.toList_ofList]
    refine ⟨_, hread, le_rfl, ?_⟩
    rw [Decimal.value, digitsValue_append_zeros]
    push_cast
    simp

end Numeral

/-! ### The text of a magnitude -/

namespace NumberStyle

/-- **The text of a magnitude shows its decimal**: the digits of a number that is no multiple of
ten, with their place. -/
theorem exists_magnitude_eq {rank : Nat} (hrank : rank ≠ 0) :
    ∃ (n : Nat) (power : Int), ¬10 ∣ n ∧
      (Shortest.decimal template.tie rank).value = n * 10 ^ power ∧
      template.magnitude rank
        = template.placed (Nat.toDigits 10 n) (power + (Nat.toDigits 10 n).length) := by
  have hreads := Shortest.readsBack_decimal template.tie rank
  generalize hdecimal : Shortest.decimal template.tie rank = decimal at hreads
  obtain ⟨significand, exponent⟩ := decimal
  have hpos : significand ≠ 0 := Decimal.significand_ne_zero hrank (beq_iff_eq.mp hreads)
  obtain ⟨zeros, n, hn, hsignificand⟩ :=
    Nat.exists_eq_pow_mul_and_not_dvd hpos 10 (by decide)
  rw [Nat.mul_comm] at hsignificand
  have hn0 : n ≠ 0 := by
    rintro rfl
    simp at hn
  refine ⟨n, exponent + zeros, hn, ?_, ?_⟩
  · rw [Decimal.value, hsignificand, zpow_add₀ (by decide), zpow_natCast]
    push_cast
    ring
  · have hpositional : ∀ power, template.positional power = true := fun _ => rfl
    rw [magnitude, if_neg hrank, hdecimal, hsignificand]
    simp only [toDigits_mul_pow hn0, dropZeros_toDigits hn, hpositional, if_true,
      List.length_append, List.length_replicate]
    congr 1
    push_cast
    ring

/-- The text of a whole number, as a magnitude, has the digits of the number. -/
theorem magnitude_eq_toDigits {rank m : Nat} (hrank : rank ≠ 0)
    (hvalue : (Shortest.decimal template.tie rank).value = m) :
    template.magnitude rank = String.ofList (Nat.toDigits 10 m) := by
  obtain ⟨n, power, hn, hdecimal, htext⟩ := exists_magnitude_eq hrank
  rw [hvalue] at hdecimal
  have hn0 : n ≠ 0 := by
    rintro rfl
    simp at hn
  rcases lt_or_ge power 0 with hpower | hpower
  · -- A negative power of ten would make the number a multiple of ten.
    obtain ⟨places, rfl⟩ := Int.exists_eq_neg_ofNat hpower.le
    have hten : (n : ℚ) = m * 10 ^ places := by
      rw [hdecimal, zpow_neg, zpow_natCast]
      field_simp
    have hmultiple : n = m * 10 ^ places := by exact_mod_cast hten
    refine absurd ?_ hn
    rw [hmultiple]
    exact Dvd.dvd.mul_left (dvd_pow_self 10 (by omega)) m
  · obtain ⟨places, rfl⟩ := Int.eq_ofNat_of_zero_le hpower
    have hm : m = n * 10 ^ places := by
      rw [zpow_natCast] at hdecimal
      exact_mod_cast hdecimal
    rw [htext, placed_natCast Nat.toDigits_ne_nil, hm, toDigits_mul_pow hn0]

end NumberStyle

end MessageTemplate
