/-
The words of scanned source.

A word in source is written plainly or with the mark of raw words, and scanning keeps the mark.
So of a word that was scanned, the name alone tells how it was written: what has no mark is a
plain word again when it is read by itself (`isPlainWord_iff_of_scanAll`), and what has one never
is.
-/
import MessageTemplate.Proofs.Source.Word

namespace MessageTemplate

namespace Source

/-- Whether a name, read by itself, is a word without the mark of raw words. -/
def IsPlainWord (name : String) : Prop :=
  readPlainWord name.toList = some (name.toList, [])

instance (name : String) : Decidable (IsPlainWord name) :=
  inferInstanceAs (Decidable (_ = _))

/-- The word that a lexeme is. -/
def Lexeme.word? : Lexeme → Option String
  | .word name => some name
  | _ => none

/-- The words among lexemes, in order. -/
def words (lexemes : List Lexeme) : List String :=
  lexemes.filterMap Lexeme.word?

@[simp] theorem words_nil : words [] = [] := rfl

@[simp] theorem words_append (lexemes others : List Lexeme) :
    words (lexemes ++ others) = words lexemes ++ words others :=
  List.filterMap_append

@[simp] theorem words_cons (lexeme : Lexeme) (lexemes : List Lexeme) :
    words (lexeme :: lexemes) = lexeme.word?.toList ++ words lexemes := by
  cases h : lexeme.word? <;> simp [words, h]

/-! ### Marks -/

theorem isRaw_iff {name : String} :
    isRaw name = true ↔ ∃ rest, name.toList = 'r' :: '#' :: rest := by
  have hstarts : isRaw name = true ↔ ['r', '#'] <+: name.toList := by simp [isRaw]
  rw [hstarts]
  constructor
  · rintro ⟨rest, hrest⟩
    exact ⟨rest, hrest.symm⟩
  · rintro ⟨rest, hrest⟩
    exact ⟨rest, hrest.symm⟩

/-- A plain word has no mark. -/
theorem IsPlainWord.not_isRaw {name : String} (h : IsPlainWord name) : isRaw name = false := by
  rw [Bool.eq_false_iff]
  intro hraw
  obtain ⟨rest, hname⟩ := isRaw_iff.mp hraw
  have hhash := (readPlainWord_nil h).2.1 '#' (by simp [hname])
  exact absurd hhash (by decide)

/-- What is read of a text as a plain word is one by itself. -/
theorem isPlainWord_of_readPlainWord {text word rest : List Char}
    (h : readPlainWord text = some (word, rest)) (hlength : rest.length < text.length) :
    IsPlainWord (String.ofList word) := by
  unfold readPlainWord at h
  split at h
  · rename_i c after
    split at h
    · rename_i hstart
      obtain ⟨rfl, rfl⟩ := Prod.mk.inj (Option.some.inj h)
      by_cases hgo : isIdentifierContinue c = true
      · have hall : ∀ d ∈ (c :: after).takeWhile isIdentifierContinue,
            isIdentifierContinue d = true := fun d hd => List.mem_takeWhile_imp hd
        have htake := List.takeWhile_eq_self_iff.mpr hall
        have hdrop := List.dropWhile_eq_nil_iff.mpr hall
        rw [List.takeWhile_cons_of_pos hgo] at htake hdrop ⊢
        rw [IsPlainWord, String.toList_ofList]
        simp only [readPlainWord, hstart, if_true, htake, hdrop]
      · -- Nothing would be taken of the text.
        rw [List.dropWhile_cons_of_neg hgo] at hlength
        exact absurd hlength (Nat.lt_irrefl _)
    · simp at h
  · simp at h

/-- **The mark of a word that is read is kept.** -/
theorem isPlainWord_iff_of_readWord {text rest : List Char} {name : String}
    (h : readWord text = some (name, rest)) (hlength : rest.length < text.length) :
    IsPlainWord name ↔ isRaw name = false := by
  refine ⟨IsPlainWord.not_isRaw, fun hraw => ?_⟩
  unfold readWord at h
  split at h
  · rename_i raw
    cases hplain : readPlainWord raw with
    | none => simp [hplain] at h
    | some found =>
        simp only [hplain] at h
        split at h
        · simp at h
        · obtain ⟨rfl, -⟩ := Prod.mk.inj (Option.some.inj h)
          rw [isRaw_iff.mpr ⟨found.1, String.toList_ofList⟩] at hraw
          simp at hraw
  · obtain ⟨found, hplain, hname⟩ := Option.map_eq_some_iff.mp h
    obtain ⟨rfl, rfl⟩ := Prod.mk.inj hname
    exact isPlainWord_of_readPlainWord hplain hlength

/-! ### Scanned lexemes -/

/-- A lexeme that is a word is read as one. -/
theorem readWord_of_readLexeme {text rest : List Char} {name : String}
    (h : readLexeme text = some (.word name, rest)) : readWord text = some (name, rest) := by
  have hdelimiter : readDelimiter text ≠ some (.word name, rest) := by
    unfold readDelimiter
    split <;> simp
  have hliteral : readLiteral text ≠ some (.word name, rest) := by
    unfold readLiteral
    split <;> simp [withSuffix, ofCharacters, withoutValue]
  have hpunct : readPunct text ≠ some (.word name, rest) := by
    unfold readPunct
    split <;> simp
  simp only [readLexeme, Option.or_eq_some_iff, hdelimiter, hliteral, hpunct, false_or] at h
  obtain ⟨-, -, -, hword⟩ := h
  split at hword
  · simp at hword
  · obtain ⟨found, hfound, hname⟩ := Option.map_eq_some_iff.mp hword
    obtain ⟨hlexeme, rfl⟩ := Prod.mk.inj hname
    obtain rfl : found.1 = name := Lexeme.word.inj hlexeme
    exact hfound

/-- A comment has one word at most. -/
theorem words_comment {comment : Comment} {lexemes : List Lexeme}
    (h : comment.lexemes? = some lexemes) : ∀ name ∈ words lexemes, name = "doc" := by
  have hitem : ∀ text, words (documentationItem text) = ["doc"] := fun _ => rfl
  cases comment with
  | ordinary =>
      obtain rfl : [] = lexemes := by simpa [Comment.lexemes?] using h
      simp
  | outer text =>
      simp only [Comment.lexemes?] at h
      split at h
      · obtain rfl := Option.some.inj h
        simp [documentation, Lexeme.word?, hitem]
      · simp at h
  | inner text =>
      simp only [Comment.lexemes?] at h
      split at h
      · obtain rfl := Option.some.inj h
        simp [innerDocumentation, Lexeme.word?, hitem]
      · simp at h

theorem isPlainWord_iff_of_readPiece {text rest : List Char} {lexemes : List Lexeme}
    (h : readPiece text = some (lexemes, rest)) (hlength : rest.length < text.length) :
    ∀ name ∈ words lexemes, IsPlainWord name ↔ isRaw name = false := by
  unfold readPiece at h
  split at h
  · simp at h
  · split at h
    · obtain ⟨rfl, -⟩ := Prod.mk.inj (Option.some.inj h)
      simp
    · split at h
      · rename_i comment after _
        obtain ⟨pieces, hpieces, hpair⟩ := Option.map_eq_some_iff.mp h
        obtain ⟨rfl, -⟩ := Prod.mk.inj hpair
        intro name hname
        obtain rfl := words_comment hpieces name hname
        have hdoc : IsPlainWord "doc" := by decide
        exact iff_of_true hdoc hdoc.not_isRaw
      · obtain ⟨found, hfound, hpair⟩ := Option.map_eq_some_iff.mp h
        obtain ⟨rfl, rfl⟩ := Prod.mk.inj hpair
        obtain ⟨lexeme, after⟩ := found
        intro name hname
        obtain rfl : lexeme = .word name := by
          cases lexeme <;> simp_all [Lexeme.word?]
        exact isPlainWord_iff_of_readWord (readWord_of_readLexeme hfound) hlength

/-- **A word of source is plain exactly if it has no mark.** -/
theorem isPlainWord_iff_of_scanAll (text : List Char) : ∀ lexemes, scanAll text = some lexemes →
    ∀ name ∈ words lexemes, IsPlainWord name ↔ isRaw name = false := by
  fun_induction scanAll text with
  | case1 =>
      rintro lexemes ⟨⟩
      simp
  | case2 text _ piece rest hpiece hlength ih =>
      intro lexemes h
      obtain ⟨others, hothers, rfl⟩ := Option.map_eq_some_iff.mp h
      rw [words_append, List.forall_mem_append]
      exact ⟨isPlainWord_iff_of_readPiece hpiece hlength, ih others hothers⟩
  | case3 => simp
  | case4 => simp

end Source

end MessageTemplate
