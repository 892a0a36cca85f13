/-
Lines and the lexemes on them.

Lines are laid out with lexemes if each line but one kind is spelled with those that it
contributes, whatever stands on the next line (`Laid`).  The exception is a line that
ends with a word: the line break after it is the boundary that the word needs.

Lines can be put between texts (`Laid.wrapLines`) and behind each other (`Laid.append`).
No line is broken, and with breaks between them the lines scan to their lexemes.
-/
import MessageTemplate.Compiled.Layout
import MessageTemplate.Proofs.Source.Spelling

namespace MessageTemplate

open Source

/-- A string literal is put in source as it is scanned. -/
theorem SourceStyle.literal_toList (text : String) :
    (SourceStyle.literal text).toList = quoted text.toList := by
  simp [SourceStyle.literal, Literal.escape, quoted]

/-- **Lines with the given lexemes, one after the other.** -/
inductive Laid : List String → List Lexeme → Prop where
  | last {line : String} {lexemes : List Lexeme} (spelled : ScansTo line.toList lexemes) :
      Laid [line] lexemes
  | line {line : String} {lines : List String} {lexemes others : List Lexeme}
      (spelled : ScansTo line.toList lexemes) (rest : Laid lines others) :
      Laid (line :: lines) (lexemes ++ others)
  /-- A line that ends with a word. -/
  | word {before name : String} {lines : List String} {lexemes others : List Lexeme}
      (spelled : ScansTo before.toList lexemes) (isWord : IsOneWord name)
      (rest : Laid lines others) :
      Laid ((before ++ name) :: lines) (lexemes ++ .word name :: others)

namespace Laid

variable {lines lines' : List String} {lexemes lexemes' : List Lexeme}

theorem ne_nil (h : Laid lines lexemes) : lines ≠ [] := by
  cases h <;> simp

/-- **No line is broken.** -/
theorem unbroken (h : Laid lines lexemes) :
    ∀ line ∈ lines, ∀ c ∈ line.toList, c ≠ '\n' ∧ c ≠ '\r' := by
  induction h with
  | last spelled => simpa using spelled.unbroken
  | line spelled _ ih => exact List.forall_mem_cons.mpr ⟨spelled.unbroken, ih⟩
  | word spelled isWord _ ih =>
      refine List.forall_mem_cons.mpr ⟨fun c hc => ?_, ih⟩
      rw [String.toList_append, List.mem_append] at hc
      exact hc.elim (spelled.unbroken c) (isWord.unbroken c)

theorem intercalate_cons (line : String) (h : lines ≠ []) :
    ("\n".intercalate (line :: lines)).toList
      = line.toList ++ '\n' :: ("\n".intercalate lines).toList := by
  obtain ⟨next, others, rfl⟩ := List.exists_cons_of_ne_nil h
  simp [String.toList_intercalate, List.intercalate]

/-- **The lines with breaks between them scan to the lexemes.** -/
theorem scanAll (h : Laid lines lexemes) :
    scanAll ("\n".intercalate lines).toList = some lexemes := by
  have hbreak : ∀ rest, Source.scanAll ('\n' :: rest) = Source.scanAll rest := by
    intro rest
    have hblank : ofSingle? '\n' = some [] := rfl
    rw [scanAll_single hblank]
    simp
  induction h with
  | last spelled =>
      have hline := spelled.scan []
      simpa [String.toList_intercalate, List.intercalate] using hline
  | line spelled rest ih =>
      rw [intercalate_cons _ rest.ne_nil, spelled.scan, hbreak, ih]
      rfl
  | word spelled isWord rest ih =>
      have hbounded : ∀ after, IsBounded ('\n' :: after) := fun _ => rfl
      rw [intercalate_cons _ rest.ne_nil, String.toList_append, List.append_assoc,
        spelled.scan, scanAll_word isWord (hbounded _), hbreak, ih]
      rfl

theorem append (h : Laid lines lexemes) (h' : Laid lines' lexemes') :
    Laid (lines ++ lines') (lexemes ++ lexemes') := by
  induction h with
  | last spelled => exact h'.line spelled
  | line spelled _ ih =>
      rw [List.append_assoc]
      exact ih.line spelled
  | word spelled isWord _ ih =>
      rw [List.append_assoc]
      exact ih.word spelled isWord

theorem wrapLast {after : String} (h : Laid lines lexemes)
    (hafter : ScansTo after.toList lexemes') :
    Laid (wrapLast after lines) (lexemes ++ lexemes') := by
  induction h with
  | last spelled =>
      have hline := spelled.append hafter
      rw [← String.toList_append] at hline
      exact .last hline
  | @line line lines _ _ spelled rest ih =>
      obtain ⟨next, others, rfl⟩ := List.exists_cons_of_ne_nil rest.ne_nil
      rw [List.append_assoc]
      exact ih.line spelled
  | @word before name lines _ _ spelled isWord rest ih =>
      obtain ⟨next, others, rfl⟩ := List.exists_cons_of_ne_nil rest.ne_nil
      rw [List.append_assoc]
      exact ih.word spelled isWord

/-- Text before the first line. -/
theorem before {before line : String} (h : Laid (line :: lines) lexemes)
    (hbefore : ScansTo before.toList lexemes') :
    Laid ((before ++ line) :: lines) (lexemes' ++ lexemes) := by
  cases h with
  | last spelled =>
      have hline := hbefore.append spelled
      rw [← String.toList_append] at hline
      exact .last hline
  | line spelled rest =>
      have hline := hbefore.append spelled
      rw [← String.toList_append] at hline
      rw [← List.append_assoc]
      exact rest.line hline
  | word spelled isWord rest =>
      have hline := hbefore.append spelled
      rw [← String.toList_append] at hline
      rw [← String.append_assoc, ← List.append_assoc]
      exact rest.word hline isWord

/-- **Lines between texts that are spelled.** -/
theorem wrapLines {before after : String} {first last : List Lexeme}
    (h : Laid lines lexemes) (hbefore : ScansTo before.toList first)
    (hafter : ScansTo after.toList last) :
    Laid (wrapLines before after lines) (first ++ (lexemes ++ last)) := by
  have hlast := h.wrapLast hafter
  unfold MessageTemplate.wrapLines
  cases hlines : MessageTemplate.wrapLast after lines with
  | nil => exact absurd hlines hlast.ne_nil
  | cons line others =>
      rw [hlines] at hlast
      exact hlast.before hbefore

end Laid

end MessageTemplate
