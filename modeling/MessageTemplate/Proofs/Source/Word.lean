/-
The first piece of a text: signs and words.

A sign, a delimiter and a blank are pieces by themselves, the slash apart, since two
slashes begin a comment (`ofSingle?`).  A word is not: what follows might go on with it,
or make a literal of it, as in `b"text"`.  So a word needs a character after it that does
neither (`isBoundary`), and then it is read whole (`scanAll_word`).
-/
import MessageTemplate.Source.Keyword
import MessageTemplate.Source.Scan
import Mathlib.Data.List.TakeWhile

namespace MessageTemplate

namespace Source

/-! ### Pieces -/

/-- Scanning goes on after a piece. -/
theorem scanAll_of_readPiece {text rest : List Char} {lexemes : List Lexeme}
    (h : readPiece text = some (lexemes, rest)) (hlength : rest.length < text.length) :
    scanAll text = (scanAll rest).map (lexemes ++ ·) := by
  have hne : text.isEmpty = false := by
    cases text with
    | nil => simp at hlength
    | cons c text => rfl
  rw [scanAll, hne]
  simp [h, hlength]

@[simp] theorem scanAll_nil : scanAll [] = some [] := by
  rw [scanAll]
  rfl

/-- The characters of operators of which none starts a comment. -/
def signs : List Char :=
  "~!@#$%^&*-=+|;:,<.>?".toList

/-- The lexemes for a character that is a piece by itself. -/
def ofSingle? (c : Char) : Option (List Lexeme) :=
  if isLayoutBlank c then some []
  else
    match readDelimiter [c] with
    | some (lexeme, _) => some [lexeme]
    | none => if signs.contains c then some [.punct c] else none

theorem isOperatorChar_eq (c : Char) :
    isOperatorChar c = decide (c ∈ "~!@#$%^&*-=+|;:,<.>/?".toList) := by
  rw [isOperatorChar, String.contains_char_eq]

theorem readDelimiter_cons (c : Char) (rest : List Char) :
    readDelimiter (c :: rest) = (readDelimiter [c]).map fun (lexeme, _) => (lexeme, rest) := by
  unfold readDelimiter
  split <;> simp_all

theorem readComment_eq_none {c : Char} (h : c ≠ '/') (rest : List Char) :
    readComment (c :: rest) = none := by
  unfold readComment
  split <;> simp_all

/-- What signs are not. -/
theorem signs_spec {c : Char} (h : c ∈ signs) :
    c ≠ '/' ∧ c ≠ '"' ∧ c ≠ '\'' ∧ c ≠ 'r' ∧ c ≠ 'b' ∧ c ≠ 'c' ∧ c.isDigit = false := by
  have hall : signs.all (fun c => c != '/' && c != '"' && c != '\'' && c != 'r' && c != 'b' &&
      c != 'c' && !c.isDigit) = true := by decide
  simpa [and_assoc] using List.all_eq_true.mp hall c h

theorem isOperatorChar_sign {c : Char} (h : c ∈ signs) : isOperatorChar c = true := by
  have hsub : signs ⊆ "~!@#$%^&*-=+|;:,<.>/?".toList := by decide
  rw [isOperatorChar_eq, decide_eq_true_eq]
  exact hsub h

theorem readLiteral_sign {c : Char} (h : c ∈ signs) (rest : List Char) :
    readLiteral (c :: rest) = none := by
  obtain ⟨-, hquote, hmark, hr, hb, hc, hdigit⟩ := signs_spec h
  unfold readLiteral
  split <;> simp_all

theorem readPunct_sign {c : Char} (h : c ∈ signs) (rest : List Char) :
    readPunct (c :: rest) = some (.punct c, rest) := by
  obtain ⟨hslash, -, hmark, -⟩ := signs_spec h
  have hoperator := isOperatorChar_sign h
  have hcomment : startsComment (c :: rest) = false := by
    simp [startsComment, List.isPrefixOf, hslash.symm]
  unfold readPunct
  split
  · simp_all
  · simp_all
  · simp_all

/-- A character that is a piece by itself. -/
theorem scanAll_single {c : Char} {lexemes : List Lexeme} (h : ofSingle? c = some lexemes)
    (rest : List Char) : scanAll (c :: rest) = (scanAll rest).map (lexemes ++ ·) := by
  refine scanAll_of_readPiece ?_ (by simp)
  unfold ofSingle? at h
  by_cases hblank : isLayoutBlank c = true
  · obtain rfl : [] = lexemes := by simpa [hblank] using h
    simp [readPiece, hblank]
  · cases hdelimiter : readDelimiter [c] with
    | some found =>
        have hslash : c ≠ '/' := by
          rintro rfl
          simp [readDelimiter] at hdelimiter
        obtain rfl : [found.1] = lexemes := by simpa [hblank, hdelimiter] using h
        simp [readPiece, hblank, readComment_eq_none hslash, readLexeme,
          readDelimiter_cons c rest, hdelimiter]
    | none =>
        have hsign : c ∈ signs := by
          by_contra hno
          simp [hblank, hdelimiter, hno] at h
        obtain rfl : [.punct c] = lexemes := by simpa [hblank, hdelimiter, hsign] using h
        simp [readPiece, hblank, readComment_eq_none (signs_spec hsign).1, readLexeme,
          readDelimiter_cons c rest, hdelimiter, readLiteral_sign hsign, readPunct_sign hsign]

/-! ### Words -/

/-- Whether a name is one word. -/
def IsOneWord (name : String) : Prop :=
  readWord name.toList = some (name, [])

instance (name : String) : Decidable (IsOneWord name) :=
  inferInstanceAs (Decidable (readWord name.toList = some (name, [])))

/-- Whether a character neither goes on with a word or a literal before it nor makes a
literal of it. -/
def isBoundary (c : Char) : Bool :=
  !isIdentifierStart c && !isIdentifierContinue c && c != '"' && c != '\'' && c != '#'

/-- Whether a text starts with a boundary. -/
def IsBounded (text : List Char) : Prop :=
  text.head?.any isBoundary = true

theorem IsBounded.cons {text : List Char} (h : IsBounded text) :
    ∃ c rest, text = c :: rest ∧ isIdentifierStart c = false ∧ isIdentifierContinue c = false ∧
      c ≠ '"' ∧ c ≠ '\'' ∧ c ≠ '#' := by
  cases text with
  | nil => simp [IsBounded] at h
  | cons c rest =>
      refine ⟨c, rest, rfl, ?_⟩
      simpa [IsBounded, isBoundary, and_assoc] using h

/-- The code points of blanks. -/
def blankCodes : List Nat :=
  [0x9, 0xa, 0xb, 0xc, 0xd, 0x20, 0x85, 0xa0, 0x1680, 0x2000, 0x2001, 0x2002, 0x2003, 0x2004,
   0x2005, 0x2006, 0x2007, 0x2008, 0x2009, 0x200a, 0x200e, 0x200f, 0x2028, 0x2029, 0x202f,
   0x205f, 0x3000]

theorem mem_blankCodes {c : Char} (h : isLayoutBlank c = true) : c.toNat ∈ blankCodes := by
  simp only [isLayoutBlank, isBlank, Bool.or_eq_true, Bool.and_eq_true, decide_eq_true_eq,
    beq_iff_eq] at h
  simp only [blankCodes, List.mem_cons, List.not_mem_nil, or_false]
  rcases h with (h | rfl) | rfl
  · omega
  · decide
  · decide

theorem isIdentifierStart_blank :
    ∀ n ∈ blankCodes, isIdentifierStart (Char.ofNat n) = false := by decide +kernel

theorem isIdentifierStart_digit :
    ∀ n < 58, 48 ≤ n → isIdentifierStart (Char.ofNat n) = false := by decide

/-- No word starts with a sign, a delimiter or a quote. -/
theorem isIdentifierStart_sign {c : Char}
    (h : c ∈ "~!@#$%^&*-=+|;:,<.>/?()[]{}\"'".toList) : isIdentifierStart c = false := by
  have hall : "~!@#$%^&*-=+|;:,<.>/?()[]{}\"'".toList.all (!isIdentifierStart ·) = true := by
    decide
  simpa using List.all_eq_true.mp hall c h

theorem readDelimiter_eq_none {c : Char} (h : c ∉ "()[]{}".toList) : readDelimiter [c] = none := by
  unfold readDelimiter
  split <;> simp_all

/-- What a character that starts a word is not. -/
structure StartsWord (c : Char) : Prop where
  notBlank : isLayoutBlank c = false
  notDelimiter : readDelimiter [c] = none
  notOperator : isOperatorChar c = false
  notDigit : c.isDigit = false
  notQuote : c ≠ '"'
  notMark : c ≠ '\''
  notSlash : c ≠ '/'

theorem startsWord {c : Char} (h : isIdentifierStart c = true) : StartsWord c := by
  have hsign : c ∉ "~!@#$%^&*-=+|;:,<.>/?()[]{}\"'".toList := by
    intro hmem
    have hno := isIdentifierStart_sign hmem
    simp [h] at hno
  have hne : ∀ d ∈ "~!@#$%^&*-=+|;:,<.>/?()[]{}\"'".toList, c ≠ d := by
    rintro d hd rfl
    exact hsign hd
  refine ⟨?_, ?_, ?_, ?_, hne _ (by decide), hne _ (by decide), hne _ (by decide)⟩
  · rw [Bool.eq_false_iff]
    intro hblank
    have hno := isIdentifierStart_blank c.toNat (mem_blankCodes hblank)
    simp [h] at hno
  · have hsub : "()[]{}".toList ⊆ "~!@#$%^&*-=+|;:,<.>/?()[]{}\"'".toList := by decide
    exact readDelimiter_eq_none fun hmem => hsign (hsub hmem)
  · have hsub : "~!@#$%^&*-=+|;:,<.>/?".toList ⊆ "~!@#$%^&*-=+|;:,<.>/?()[]{}\"'".toList := by
      decide
    rw [isOperatorChar_eq, decide_eq_false_iff_not]
    exact fun hmem => hsign (hsub hmem)
  · rw [Bool.eq_false_iff]
    intro hdigit
    simp only [Char.isDigit, ge_iff_le, Bool.and_eq_true, decide_eq_true_eq] at hdigit
    have hlow : 48 ≤ c.toNat := hdigit.1
    have hhigh : c.toNat ≤ 57 := hdigit.2
    have hno := isIdentifierStart_digit c.toNat (by omega) hlow
    simp [h] at hno

/-- What is read as a plain word with nothing left. -/
theorem readPlainWord_nil {text word : List Char} (h : readPlainWord text = some (word, [])) :
    word = text ∧ (∀ d ∈ text, isIdentifierContinue d = true) ∧
      ∃ c rest, text = c :: rest ∧ isIdentifierStart c = true := by
  cases text with
  | nil => simp [readPlainWord] at h
  | cons c rest =>
      by_cases hstart : isIdentifierStart c = true
      · simp only [readPlainWord, hstart, if_true, Option.some.injEq, Prod.mk.injEq] at h
        have hall := List.dropWhile_eq_nil_iff.mp h.2
        refine ⟨?_, hall, c, rest, rfl, hstart⟩
        rw [← h.1]
        exact List.takeWhile_eq_self_iff.mpr hall
      · simp [readPlainWord, hstart] at h

/-- A plain word is read up to a boundary. -/
theorem readPlainWord_append {c : Char} {rest text : List Char}
    (hstart : isIdentifierStart c = true)
    (hgo : ∀ d ∈ c :: rest, isIdentifierContinue d = true) (bounded : IsBounded text) :
    readPlainWord (c :: rest ++ text) = some (c :: rest, text) := by
  obtain ⟨d, after, rfl, -, hd, -⟩ := bounded.cons
  have htake : (c :: rest ++ d :: after).takeWhile isIdentifierContinue = c :: rest := by
    rw [List.takeWhile_append_of_pos hgo, List.takeWhile_cons_of_neg (by simp [hd]),
      List.append_nil]
  have hdrop : (c :: rest ++ d :: after).dropWhile isIdentifierContinue = d :: after := by
    rw [List.dropWhile_append_of_pos hgo, List.dropWhile_cons_of_neg (by simp [hd])]
  rw [List.cons_append] at htake hdrop ⊢
  simp only [readPlainWord, hstart, if_true, htake, hdrop]

/-- A word is plain or has the mark of raw words. -/
theorem IsOneWord.cases {name : String} (h : IsOneWord name) :
    ∃ c rest, isIdentifierStart c = true ∧ (∀ d ∈ c :: rest, isIdentifierContinue d = true) ∧
      (name.toList = c :: rest ∨
        name.toList = 'r' :: '#' :: c :: rest ∧
          neverRaw.contains (String.ofList (c :: rest)) = false) := by
  unfold IsOneWord readWord at h
  split at h
  · rename_i raw hname
    cases hraw : readPlainWord raw with
    | none => simp [hraw] at h
    | some found =>
        obtain ⟨word, left⟩ := found
        by_cases hnever : String.ofList word ∈ neverRaw
        · simp [hraw, hnever] at h
        · simp only [hraw, List.contains_eq_mem, hnever, decide_false, Bool.false_eq_true,
            if_false, Option.some.injEq, Prod.mk.injEq] at h
          obtain ⟨-, rfl⟩ := h
          obtain ⟨rfl, hgo, c, rest, rfl, hstart⟩ := readPlainWord_nil hraw
          exact ⟨c, rest, hstart, hgo, Or.inr ⟨hname, by simpa using hnever⟩⟩
  · obtain ⟨found, hplain, hpair⟩ := Option.map_eq_some_iff.mp h
    obtain ⟨word, left⟩ := found
    obtain ⟨-, rfl⟩ := Prod.mk.injEq _ _ _ _ ▸ hpair
    obtain ⟨-, hgo, c, rest, hname, hstart⟩ := readPlainWord_nil hplain
    exact ⟨c, rest, hstart, hname ▸ hgo, Or.inl hname⟩

/-! ### Words and literals

A literal may start with letters, so the start of a word has to be told from one.  Each
such literal has a quote or a hash behind at most two letters, and neither comes in a
word or right after it.
-/

/-- Whether a text goes on with a word and then has a boundary. -/
def GoesOn (text : List Char) : Prop :=
  ∃ word after, text = word ++ after ∧ (∀ d ∈ word, isIdentifierContinue d = true) ∧
    IsBounded after

theorem GoesOn.cons {text : List Char} (h : GoesOn text) :
    ∃ d rest, text = d :: rest ∧ d ≠ '"' ∧ d ≠ '\'' ∧ d ≠ '#' ∧
      (isIdentifierStart d = true → GoesOn rest) := by
  obtain ⟨word, after, rfl, hgo, bounded⟩ := h
  cases word with
  | nil =>
      obtain ⟨d, rest, rfl, hstart, -, hquote, hmark, hhash⟩ := bounded.cons
      exact ⟨d, rest, rfl, hquote, hmark, hhash, fun h => by simp [hstart] at h⟩
  | cons d word =>
      have hd := hgo d (by simp)
      refine ⟨d, word ++ after, rfl, ?_, ?_, ?_, fun _ =>
        ⟨word, after, rfl, fun e he => hgo e (List.mem_cons_of_mem _ he), bounded⟩⟩
      all_goals
        rintro rfl
        exact absurd hd (by decide)

theorem readRawLiteral_eq_none {kind : StringKind} {c : Char} (hquote : c ≠ '"')
    (hhash : c ≠ '#') (rest : List Char) : readRawLiteral kind (c :: rest) = none := by
  have hdrop : (c :: rest).dropWhile (· == '#') = c :: rest :=
    List.dropWhile_cons_of_neg (by simpa using hhash)
  unfold readRawLiteral
  rw [hdrop]
  split <;> simp_all

theorem GoesOn.not_raw {text : List Char} (h : GoesOn text) (kind : StringKind) :
    readRawLiteral kind text = none := by
  obtain ⟨d, rest, rfl, hquote, -, hhash, -⟩ := h.cons
  exact readRawLiteral_eq_none hquote hhash rest

/-- A word is no literal. -/
theorem GoesOn.not_literal {c : Char} {text : List Char} (hstart : isIdentifierStart c = true)
    (h : GoesOn text) : readLiteral (c :: text) = none := by
  have hc := startsWord hstart
  obtain ⟨d, rest, htext, hquote, hmark, -, hgo⟩ := h.cons
  -- An `r` in second place is followed by more of the word.
  have hraw : ∀ kind after, text = 'r' :: after → readRawLiteral kind after = none := by
    rintro kind after rfl
    obtain ⟨rfl, rfl⟩ := List.cons.inj htext
    exact (hgo (by decide)).not_raw kind
  have hsecond : ∀ after, text ≠ '"' :: after ∧ text ≠ '\'' :: after := by
    intro after
    rw [htext]
    exact ⟨fun heq => hquote (List.cons.inj heq).1, fun heq => hmark (List.cons.inj heq).1⟩
  unfold readLiteral
  split <;> rename_i heq
  · exact absurd (List.cons.inj heq).1 hc.notQuote
  · obtain ⟨-, rfl⟩ := List.cons.inj heq
    rw [h.not_raw]
    rfl
  · exact absurd (List.cons.inj heq).2 (hsecond _).1
  · rw [hraw _ _ (List.cons.inj heq).2]
    rfl
  · exact absurd (List.cons.inj heq).2 (hsecond _).1
  · rw [hraw _ _ (List.cons.inj heq).2]
    rfl
  · exact absurd (List.cons.inj heq).2 (hsecond _).2
  · exact absurd (List.cons.inj heq).1 hc.notMark
  · obtain ⟨rfl, -⟩ := List.cons.inj heq
    rw [hc.notDigit]
    rfl
  · exact absurd heq (by simp)

theorem GoesOn.not_startsLiteral {text : List Char} (c : Char) (h : GoesOn text) :
    startsLiteral (c :: text) = false := by
  obtain ⟨d, rest, rfl, hquote, hmark, hhash, hgo⟩ := h.cons
  by_cases hr : d = 'r'
  · subst hr
    obtain ⟨e, after, rfl, hquote', -, hhash', -⟩ := (hgo (by decide)).cons
    simp [startsLiteral, literalStarts, List.isPrefixOf, hquote'.symm, hhash'.symm]
  · simp [startsLiteral, literalStarts, List.isPrefixOf, hquote.symm, hmark.symm, hhash.symm,
      Ne.symm hr]

theorem StartsWord.not_punct {c : Char} (h : StartsWord c) (text : List Char) :
    readPunct (c :: text) = none := by
  have hmark := h.notMark
  have hoperator := h.notOperator
  unfold readPunct
  split <;> simp_all

theorem StartsWord.not_delimiter {c : Char} (h : StartsWord c) (text : List Char) :
    readDelimiter (c :: text) = none := by
  rw [readDelimiter_cons, h.notDelimiter]
  rfl

/-- **A word is read whole if a boundary follows.** -/
theorem IsOneWord.readWord_append {name : String} (h : IsOneWord name) {text : List Char}
    (bounded : IsBounded text) : readWord (name.toList ++ text) = some (name, text) := by
  obtain ⟨c, rest, hstart, hgo, hname | ⟨hname, hnever⟩⟩ := h.cases
  · have hplain := readPlainWord_append hstart hgo bounded
    have hraw : ∀ after, c :: rest ++ text ≠ 'r' :: '#' :: after := by
      intro after heq
      have hgoes : GoesOn (rest ++ text) :=
        ⟨rest, text, rfl, fun d hd => hgo d (List.mem_cons_of_mem _ hd), bounded⟩
      obtain ⟨d, _, hd, -, -, hhash, -⟩ := hgoes.cons
      rw [List.cons_append, hd] at heq
      exact hhash (List.cons.inj (List.cons.inj heq).2).1
    rw [hname]
    unfold readWord
    split
    · rename_i heq
      exact absurd heq (hraw _)
    · have hwhole : String.ofList (c :: rest) = name := by rw [← hname, String.ofList_toList]
      rw [hplain]
      exact congrArg (fun word => some (word, text)) hwhole
  · have hplain := readPlainWord_append hstart hgo bounded
    rw [hname]
    simp only [List.cons_append] at hplain ⊢
    simp only [readWord, hplain, hnever, Bool.false_eq_true, if_false]
    rw [← hname, String.ofList_toList]

/-- **A word is a lexeme if a boundary follows.** -/
theorem IsOneWord.readLexeme_append {name : String} (h : IsOneWord name) {text : List Char}
    (bounded : IsBounded text) :
    readLexeme (name.toList ++ text) = some (.word name, text) := by
  have hword := h.readWord_append bounded
  obtain ⟨c, rest, hstart, hgo, hname | ⟨hname, -⟩⟩ := h.cases
  · have hgoes : GoesOn (rest ++ text) :=
      ⟨rest, text, rfl, fun d hd => hgo d (List.mem_cons_of_mem _ hd), bounded⟩
    have hc := startsWord hstart
    rw [hname, List.cons_append] at hword ⊢
    simp only [readLexeme, hc.not_delimiter, hgoes.not_literal hstart, hc.not_punct,
      hgoes.not_startsLiteral, hword, Option.none_or, Bool.false_eq_true, if_false,
      Option.map_some]
  · have hr : StartsWord 'r' := startsWord (by decide)
    have hc := startsWord hstart
    have hhash : c ≠ '#' := by
      rintro rfl
      exact absurd hstart (by decide)
    have hliteral : readLiteral ('r' :: '#' :: c :: (rest ++ text)) = none := by
      have hdrop : ('#' :: c :: (rest ++ text)).dropWhile (· == '#') = c :: (rest ++ text) := by
        rw [List.dropWhile_cons_of_pos (by rfl),
          List.dropWhile_cons_of_neg (by simpa using hhash)]
      have hquote := hc.notQuote
      simp only [readLiteral, readRawLiteral, hdrop]
      split <;> simp_all [withSuffix]
    have hstarts : startsLiteral ('r' :: '#' :: c :: (rest ++ text)) = false := by
      simp [startsLiteral, literalStarts, List.isPrefixOf, hhash.symm, hc.notQuote.symm]
    rw [hname] at hword ⊢
    simp only [List.cons_append] at hword ⊢
    simp only [readLexeme, hr.not_delimiter, hliteral, hr.not_punct, hstarts, hword,
      Option.none_or, Bool.false_eq_true, if_false, Option.map_some]

/-- Scanning goes on after a word. -/
theorem scanAll_word {name : String} (h : IsOneWord name) {text : List Char}
    (bounded : IsBounded text) :
    scanAll (name.toList ++ text) = (scanAll text).map (.word name :: ·) := by
  have hlexeme := h.readLexeme_append bounded
  obtain ⟨d, rest, hname, hd⟩ : ∃ d rest, name.toList = d :: rest ∧ StartsWord d := by
    obtain ⟨c, rest, hstart, -, hname | ⟨hname, -⟩⟩ := h.cases
    · exact ⟨c, rest, hname, startsWord hstart⟩
    · exact ⟨'r', '#' :: c :: rest, hname, startsWord (by decide)⟩
  have hlength : text.length < (name.toList ++ text).length := by
    rw [hname, List.cons_append, List.length_cons, List.length_append]
    omega
  have hpiece : readPiece (name.toList ++ text) = some ([.word name], text) := by
    rw [hname, List.cons_append] at hlexeme ⊢
    simp only [readPiece, hd.notBlank, Bool.false_eq_true, if_false,
      readComment_eq_none hd.notSlash, hlexeme, Option.map_some]
  exact scanAll_of_readPiece hpiece hlength

end Source

end MessageTemplate
