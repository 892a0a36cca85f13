/-
An escaped text is read back.

Characters are escaped one by one, so reading is followed character by character, with
anything after them.  What takes a step of its own is a control character: its code point
is written with one or two hexadecimal digits (`toDigits_of_lt`), and those give the code
point again (`readEscape_escapedByCode`).

Nothing that is written for a character is a control character, so a string literal never
ends a line.
-/
import MessageTemplate.Compiled.Literal
import MessageTemplate.Source.StringLiteral
import Mathlib.Data.Nat.Digits.Defs

namespace MessageTemplate

namespace Literal

/-! ### Code points -/

/-- A number below 256 has one or two hexadecimal digits. -/
theorem toDigits_of_lt {n : Nat} (h : n < 256) :
    Nat.toDigits 16 n
      = if n < 16 then [n.digitChar] else [(n / 16).digitChar, (n % 16).digitChar] := by
  by_cases hsmall : n < 16
  · rw [if_pos hsmall, Nat.toDigits_of_lt_base hsmall]
  · have hhigh : 0 < n / 16 := by omega
    have hlow : n % 16 < 16 := by omega
    have hsplit := Nat.toDigits_append_toDigits (b := 16) (by decide) hhigh hlow
    rw [if_neg hsmall, ← Nat.div_add_mod n 16, ← hsplit, Nat.div_add_mod,
      Nat.toDigits_of_lt_base hlow, Nat.toDigits_of_lt_base (by omega)]
    rfl

theorem hexDigit?_digitChar : ∀ d < 16, hexDigit? d.digitChar = some d := by decide

theorem digitChar_ne : ∀ d < 16, d.digitChar ≠ '_' ∧ d.digitChar ≠ '}' := by decide

/-- Reading a digit of a code point. -/
theorem readCodePoint_digitChar (value count : Nat) {d : Nat} (hd : d < 16) (hcount : count < 6)
    (rest : List Char) :
    Source.readCodePoint value count (d.digitChar :: rest)
      = Source.readCodePoint (16 * value + d) (count + 1) rest := by
  have hne := digitChar_ne d hd
  have hfew : ¬count = 6 := by omega
  simp [Source.readCodePoint, hne.1, hne.2, hexDigit?_digitChar d hd, hfew]

/-- The end of a code point. -/
theorem readCodePoint_end (c : Char) {count : Nat} (h : 0 < count) (rest : List Char) :
    Source.readCodePoint c.toNat count ('}' :: rest) = some (c, rest) := by
  have hsome : ¬count = 0 := by omega
  have hvalid : c.toNat.isValidChar := c.valid
  simp [Source.readCodePoint, hsome, Source.character?, hvalid]

/-- The escape of a character by its code point is read back. -/
theorem readEscape_escapedByCode {c : Char} (h : c.toNat < 256) (rest : List Char) :
    ∃ body, Text.escapedByCode c = '\\' :: body ∧
      Source.readEscape .text (body ++ rest) = some (c, rest) := by
  refine ⟨'u' :: '{' :: Nat.toDigits 16 c.toNat ++ ['}'], rfl, ?_⟩
  have hcode : Source.readCodePoint 0 0 (Nat.toDigits 16 c.toNat ++ '}' :: rest)
      = some (c, rest) := by
    rw [toDigits_of_lt h]
    by_cases hsmall : c.toNat < 16
    · rw [if_pos hsmall, List.singleton_append, readCodePoint_digitChar 0 0 hsmall (by decide),
        Nat.mul_zero, Nat.zero_add]
      exact readCodePoint_end c (by decide) rest
    · have hvalue : 16 * (16 * 0 + c.toNat / 16) + c.toNat % 16 = c.toNat := by omega
      rw [if_neg hsmall, List.cons_append, List.singleton_append,
        readCodePoint_digitChar 0 0 (by omega) (by decide),
        readCodePoint_digitChar _ _ (by omega) (by decide), hvalue]
      exact readCodePoint_end c (by decide) rest
  simp [Source.readEscape, hcode, Source.StringKind.accepts]

/-! ### Characters -/

/-- A character that stands for itself is read as it is. -/
theorem readCooked_cons {c : Char} (hquote : c ≠ '"') (hslash : c ≠ '\\') (hreturn : c ≠ '\r')
    (rest : List Char) :
    Source.readCooked .text false (c :: rest)
      = Source.Reading.cons c (Source.readCooked .text false rest) := by
  rw [Source.readCooked]
  · simp [hreturn, Source.StringKind.accepts]
  all_goals simp_all

/-- An escape is read as its character. -/
theorem readCooked_escape {text rest : List Char} {c : Char}
    (h : Source.readEscape .text text = some (c, rest)) :
    Source.readCooked .text false ('\\' :: text)
      = Source.Reading.cons c (Source.readCooked .text false rest) := by
  -- A backslash at the end of a line is another matter, but no escape starts like that.
  have hfeed : ∀ after, text ≠ '\n' :: after := by
    rintro after rfl
    simp [Source.readEscape, Source.simpleEscape?] at h
  have hreturn : ∀ after, text ≠ '\r' :: '\n' :: after := by
    rintro after rfl
    simp [Source.readEscape, Source.simpleEscape?] at h
  rw [Source.readCooked]
  · split
    · rename_i heq
      rw [h] at heq
      simp only [Option.some.injEq, Prod.mk.injEq] at heq
      rw [heq.1, heq.2]
    · simp_all
  all_goals simp_all

/-- A line break is a control character. -/
theorem ne_break_of_isControl {c : Char} (h : isControl c = false) : c ≠ '\n' ∧ c ≠ '\r' := by
  constructor
  · rintro rfl
    simp [isControl] at h
  · rintro rfl
    simp [isControl] at h

/-- A character is escaped by a letter or a sign after a backslash, by its code point, or
not at all. -/
theorem escapedChar_cases (c : Char) :
    (∃ letter, escapedChar c = ['\\', letter] ∧ isControl letter = false ∧
        ∀ rest, Source.readEscape .text (letter :: rest) = some (c, rest)) ∨
      (escapedChar c = Text.escapedByCode c ∧ c.toNat < 256) ∨
      (escapedChar c = [c] ∧ c ≠ '"' ∧ c ≠ '\\' ∧ isControl c = false) := by
  unfold escapedChar
  by_cases hslash : c = '\\'
  · exact Or.inl ⟨'\\', by simp [hslash, isControl, Source.readEscape, Source.simpleEscape?]⟩
  by_cases hquote : c = '"'
  · exact Or.inl ⟨'"', by simp [hquote, isControl, Source.readEscape, Source.simpleEscape?]⟩
  by_cases hfeed : c = '\n'
  · exact Or.inl ⟨'n', by simp [hfeed, isControl, Source.readEscape, Source.simpleEscape?]⟩
  by_cases hreturn : c = '\r'
  · exact Or.inl ⟨'r', by simp [hreturn, isControl, Source.readEscape, Source.simpleEscape?]⟩
  by_cases htab : c = '\t'
  · exact Or.inl ⟨'t', by simp [htab, isControl, Source.readEscape, Source.simpleEscape?]⟩
  refine Or.inr ?_
  by_cases hcontrol : isControl c = true
  · refine Or.inl ⟨by simp [*], ?_⟩
    simp only [isControl, Bool.or_eq_true, Bool.and_eq_true, decide_eq_true_eq] at hcontrol
    omega
  · exact Or.inr (by simp [*])

/-- **An escaped character is read back.** -/
theorem readCooked_escapedChar (c : Char) (rest : List Char) :
    Source.readCooked .text false (escapedChar c ++ rest)
      = Source.Reading.cons c (Source.readCooked .text false rest) := by
  rcases escapedChar_cases c with ⟨letter, hletter, -, hread⟩ | ⟨hcode, hlt⟩ | ⟨hself, h⟩
  · rw [hletter]
    exact readCooked_escape (hread rest)
  · obtain ⟨body, hbody, hread⟩ := readEscape_escapedByCode hlt rest
    rw [hcode, hbody]
    exact readCooked_escape hread
  · rw [hself]
    exact readCooked_cons h.1 h.2.1 (ne_break_of_isControl h.2.2).2 rest

/-- **An escaped text is read back, up to the quote after it.** -/
theorem readCooked_escape_quote (text rest : List Char) :
    Source.readCooked .text false (text.flatMap escapedChar ++ '"' :: rest)
      = some (text, rest) := by
  induction text with
  | nil => simp [Source.readCooked]
  | cons c text ih =>
      rw [List.flatMap_cons, List.append_assoc, readCooked_escapedChar, ih]
      rfl

/-! ### What is written for a character -/

/-- The digits of a code point are digits. -/
theorem exists_digitChar {n : Nat} (hn : n < 256) {d : Char} (h : d ∈ Nat.toDigits 16 n) :
    ∃ digit < 16, d = digit.digitChar := by
  rw [toDigits_of_lt hn] at h
  by_cases hsmall : n < 16
  · rw [if_pos hsmall, List.mem_singleton] at h
    exact ⟨n, hsmall, h⟩
  · rw [if_neg hsmall, List.mem_cons, List.mem_singleton] at h
    rcases h with h | h
    · exact ⟨n / 16, by omega, h⟩
    · exact ⟨n % 16, by omega, h⟩

theorem digitChar_plain :
    ∀ digit < 16, isControl digit.digitChar = false ∧ digit.digitChar ≠ '"' := by decide

/-- The escape of a character by its code point has no control character and no quote. -/
theorem escapedByCode_plain {c d : Char} (hc : c.toNat < 256) (h : d ∈ Text.escapedByCode c) :
    isControl d = false ∧ d ≠ '"' := by
  simp only [Text.escapedByCode, List.cons_append, List.mem_cons, List.mem_append,
    List.not_mem_nil, or_false] at h
  rcases h with rfl | rfl | rfl | hdigit | rfl
  · decide
  · decide
  · decide
  · obtain ⟨digit, hlt, rfl⟩ := exists_digitChar hc hdigit
    exact digitChar_plain digit hlt
  · decide

/-- **No control character is written for a character.** -/
theorem isControl_of_mem_escapedChar {c d : Char} (h : d ∈ escapedChar c) :
    isControl d = false := by
  rcases escapedChar_cases c with ⟨letter, hletter, hcontrol, -⟩ | ⟨hcode, hlt⟩ | ⟨hself, hc⟩
  · rw [hletter, List.mem_cons, List.mem_singleton] at h
    rcases h with rfl | rfl
    · decide
    · exact hcontrol
  · rw [hcode] at h
    exact (escapedByCode_plain hlt h).1
  · rw [hself] at h
    rw [List.mem_singleton.mp h]
    exact hc.2.2

end Literal

end MessageTemplate
