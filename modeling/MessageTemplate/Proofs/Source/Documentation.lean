/-
Documentation comments.

A comment with three slashes goes to the end of its line.  A carriage return at the end of the
line belongs to the line break.  Anywhere else in the line the comment cannot be scanned with
it, and with the comment the whole source cannot (`scanAll_documentation`).
-/
import MessageTemplate.Proofs.Source.Spelling

namespace MessageTemplate

namespace Source

/-- A text without a first piece cannot be scanned. -/
theorem scanAll_of_readPiece_eq_none {text : List Char} (hne : text ≠ [])
    (h : readPiece text = none) : scanAll text = none := by
  rw [scanAll, if_neg (by simpa using hne), h]

theorem scan?_eq_none {source : String} (hmark : source.toList.head? ≠ some '\ufeff')
    (hscan : scanAll source.toList = none) : scan? source = none := by
  unfold scan?
  split
  · rename_i rest heq
    rw [heq] at hmark
    exact absurd rfl hmark
  · simp [hscan]

/-! ### Lines -/

/-- A line without the carriage return that belongs to the line break after it. -/
def withoutReturn (line : List Char) : List Char :=
  if line.getLast? = some '\r' then line.dropLast else line

variable {line : List Char}

/-- A character that is not part of a line break stays on its line. -/
theorem splitLine_cons {c : Char} {rest : List Char} (hfeed : c ≠ '\n')
    (hreturn : c = '\r' → rest.head? ≠ some '\n') :
    splitLine (c :: rest) = (c :: (splitLine rest).1, (splitLine rest).2) := by
  have hbreak : ∀ after, c = '\r' → rest = '\n' :: after → False := by
    rintro after rfl rfl
    exact hreturn rfl rfl
  rw [splitLine.eq_3 _ _ hbreak, if_neg (by simpa using hfeed)]

/-- A line goes to its line break. -/
theorem splitLine_append (h : '\n' ∉ line) (rest : List Char) :
    splitLine (line ++ '\n' :: rest) = (withoutReturn line, '\n' :: rest) := by
  induction line with
  | nil => rfl
  | cons c line ih =>
      rw [List.mem_cons, not_or] at h
      have hfeed : c ≠ '\n' := fun heq => h.1 heq.symm
      by_cases hlast : c = '\r' ∧ line = []
      · obtain ⟨rfl, rfl⟩ := hlast
        rfl
      · have hreturn : c = '\r' → (line ++ '\n' :: rest).head? ≠ some '\n' := by
          intro hc
          obtain ⟨d, others, rfl⟩ := List.exists_cons_of_ne_nil fun hnil => hlast ⟨hc, hnil⟩
          have hd : d ≠ '\n' := fun heq => h.2 (heq ▸ List.mem_cons_self)
          simpa using hd
        have hcons : withoutReturn (c :: line) = c :: withoutReturn line := by
          cases line with
          | nil =>
              have hc : c ≠ '\r' := fun hc => hlast ⟨hc, rfl⟩
              simp [withoutReturn, hc]
          | cons d others =>
              simp only [withoutReturn, List.getLast?_cons_cons, List.dropLast_cons_cons]
              split <;> rfl
        rw [List.cons_append, splitLine_cons hfeed hreturn, ih h.2, hcons]

/-- On one line, no carriage return is part of a line break. -/
theorem hasWholeLineBreaks_iff (h : '\n' ∉ line) :
    hasWholeLineBreaks line = true ↔ '\r' ∉ line := by
  induction line with
  | nil => simp [hasWholeLineBreaks]
  | cons c line ih =>
      rw [List.mem_cons, not_or] at h
      have hbreak : ∀ after, c = '\r' → line = '\n' :: after → False := by
        rintro after - rfl
        exact h.2 List.mem_cons_self
      rw [hasWholeLineBreaks.eq_3 _ _ hbreak, Bool.and_eq_true, ih h.2, bne_iff_ne, List.mem_cons,
        not_or, ne_comm]

theorem return_mem_withoutReturn : '\r' ∈ withoutReturn line ↔ '\r' ∈ line.dropLast := by
  unfold withoutReturn
  split
  · rfl
  · rename_i hlast
    rcases List.eq_nil_or_concat line with rfl | ⟨before, c, rfl⟩
    · rfl
    · have hc : '\r' ≠ c := by
        rintro rfl
        simp at hlast
      simp [hc]

theorem withoutReturn_subset (line : List Char) : withoutReturn line ⊆ line := by
  unfold withoutReturn
  split
  · exact List.dropLast_subset line
  · exact List.Subset.refl line

/-! ### Comments -/

/-- **A documentation comment is scanned if it has no carriage return before its end.** -/
theorem scanAll_documentation (h : '\n' ∉ line) (hslash : line.head? ≠ some '/')
    (rest : List Char) :
    scanAll ('/' :: '/' :: '/' :: line ++ '\n' :: rest)
      = if '\r' ∈ line.dropLast then none
        else (scanAll rest).map (documentation (String.ofList (withoutReturn line)) ++ ·) := by
  have hbreak : scanAll ('\n' :: rest) = scanAll rest := by
    have hblank : ofSingle? '\n' = some [] := rfl
    rw [scanAll_single hblank]
    simp
  have hfeed : '\n' ∉ withoutReturn line := fun hmem => h (withoutReturn_subset line hmem)
  have hcomment : readComment ('/' :: '/' :: '/' :: line ++ '\n' :: rest)
      = some (.outer (withoutReturn line), '\n' :: rest) := by
    rw [List.cons_append, List.cons_append, List.cons_append]
    cases line with
    | nil => rfl
    | cons c line =>
        have hc : c ≠ '/' := by simpa using hslash
        have hline := splitLine_append h rest
        rw [List.cons_append] at hline ⊢
        rw [readComment.eq_2 _ (by simpa using hc), readLine, hline]
  have hshorter : ('\n' :: rest).length < ('/' :: '/' :: '/' :: line ++ '\n' :: rest).length := by
    simp only [List.cons_append, List.length_cons, List.length_append]
    omega
  have hpiece : readPiece ('/' :: '/' :: '/' :: line ++ '\n' :: rest)
      = (Comment.outer (withoutReturn line)).lexemes?.map (·, '\n' :: rest) := by
    have hblank : isLayoutBlank '/' = false := by decide
    rw [List.cons_append] at hcomment ⊢
    simp only [readPiece, hblank, Bool.false_eq_true, if_false, hcomment]
  rw [Comment.lexemes?] at hpiece
  by_cases hreturn : '\r' ∈ line.dropLast
  · have hbroken : hasWholeLineBreaks (withoutReturn line) = false := by
      rw [Bool.eq_false_iff, Ne, hasWholeLineBreaks_iff hfeed, return_mem_withoutReturn]
      exact fun hno => hno hreturn
    rw [hbroken, if_neg Bool.false_ne_true, Option.map_none] at hpiece
    rw [if_pos hreturn, scanAll_of_readPiece_eq_none (by simp) hpiece]
  · have hwhole : hasWholeLineBreaks (withoutReturn line) = true := by
      rwa [hasWholeLineBreaks_iff hfeed, return_mem_withoutReturn]
    rw [hwhole, if_pos rfl, Option.map_some] at hpiece
    rw [if_neg hreturn, scanAll_of_readPiece hpiece hshorter, hbreak]

end Source

end MessageTemplate
