/-
Texts that are spelled with lexemes.

A text spells lexemes if it has them in front of whatever is scanned after it
(`ScansTo`).  Such texts are put together from the right: a sign or a delimiter may stand
in front of anything, a word or a string literal only in front of a boundary.

A path is not spelled by itself, since its last word might go on; with a boundary after
it, it is (`IsPath.scansTo`).
-/
import MessageTemplate.Proofs.Source.StringLiteral
import MessageTemplate.Proofs.Source.Word

namespace MessageTemplate

namespace Source

/-! ### String literals -/

/-- A string literal, with its quotes. -/
def quoted (text : List Char) : List Char :=
  '"' :: text.flatMap Literal.escapedChar ++ ['"']

/-- Scanning goes on after a string literal that has no suffix. -/
theorem scanAll_quoted (value : String) {text : List Char} (hsuffix : afterSuffix text = text) :
    scanAll (quoted value.toList ++ text) = (scanAll text).map (.string value :: ·) := by
  obtain ⟨inside, hinside⟩ : ∃ inside, quoted value.toList ++ text = '"' :: inside :=
    ⟨_, rfl⟩
  have hliteral : readLiteral ('"' :: inside) = some (.string value, text) := by
    have hcooked := Literal.readCooked_escape_quote value.toList text
    rw [← hinside, quoted, List.append_assoc, List.cons_append, List.singleton_append]
    simp [readLiteral, hcooked, withSuffix, ofCharacters, hsuffix]
  have hpiece : readPiece ('"' :: inside) = some ([.string value], text) := by
    have hblank : isLayoutBlank '"' = false := by decide
    have hcomment : readComment ('"' :: inside) = none := readComment_eq_none (by decide) inside
    have hdelimiter : readDelimiter ('"' :: inside) = none := rfl
    simp only [readPiece, hblank, Bool.false_eq_true, if_false, hcomment, readLexeme, hdelimiter,
      hliteral, Option.none_or, Option.some_or, Option.map_some]
  have hlength : text.length < ('"' :: inside).length := by
    rw [← hinside, quoted, List.length_append, List.length_append, List.length_cons]
    simp only [List.length_singleton]
    omega
  rw [hinside]
  exact scanAll_of_readPiece hpiece hlength

/-- A boundary is no suffix of a literal. -/
theorem IsBounded.afterSuffix_eq {text : List Char} (h : IsBounded text) :
    afterSuffix text = text := by
  obtain ⟨c, rest, rfl, hstart, -⟩ := h.cons
  simp [afterSuffix, hstart]

/-! ### Spelled texts -/

/-- **A text without line breaks that has the given lexemes, whatever follows it.** -/
structure ScansTo (text : List Char) (lexemes : List Lexeme) : Prop where
  unbroken : ∀ c ∈ text, c ≠ '\n' ∧ c ≠ '\r'
  scan : ∀ rest, scanAll (text ++ rest) = (scanAll rest).map (lexemes ++ ·)

namespace ScansTo

variable {text text' : List Char} {lexemes lexemes' : List Lexeme}

theorem nil : ScansTo [] [] where
  unbroken := by simp
  scan rest := by simp

theorem append (h : ScansTo text lexemes) (h' : ScansTo text' lexemes') :
    ScansTo (text ++ text') (lexemes ++ lexemes') where
  unbroken c hc := by
    rcases List.mem_append.mp hc with hc | hc
    · exact h.unbroken c hc
    · exact h'.unbroken c hc
  scan rest := by
    rw [List.append_assoc, h.scan, h'.scan]
    cases scanAll rest <;> simp

/-- A blank, a delimiter or a sign in front. -/
theorem single {c : Char} {piece : List Lexeme} (hpiece : ofSingle? c = some piece)
    (hfeed : c ≠ '\n') (hreturn : c ≠ '\r') (h : ScansTo text lexemes) :
    ScansTo (c :: text) (piece ++ lexemes) where
  unbroken d hd := by
    rcases List.mem_cons.mp hd with rfl | hd
    · exact ⟨hfeed, hreturn⟩
    · exact h.unbroken d hd
  scan rest := by
    rw [List.cons_append, scanAll_single hpiece, h.scan]
    cases scanAll rest <;> simp

end ScansTo

theorem IsBounded.append {text : List Char} (h : IsBounded text) (rest : List Char) :
    IsBounded (text ++ rest) := by
  obtain ⟨c, after, rfl, -⟩ := h.cons
  exact h

theorem continue_unbroken {c : Char} (h : isIdentifierContinue c = true) :
    c ≠ '\n' ∧ c ≠ '\r' := by
  constructor
  all_goals
    rintro rfl
    exact absurd h (by decide)

/-- No character of a word is a line break. -/
theorem IsOneWord.unbroken {name : String} (h : IsOneWord name) :
    ∀ c ∈ name.toList, c ≠ '\n' ∧ c ≠ '\r' := by
  obtain ⟨first, rest, -, hgo, hname | ⟨hname, -⟩⟩ := h.cases
  · rw [hname]
    exact fun c hc => continue_unbroken (hgo c hc)
  · rw [hname, List.forall_mem_cons, List.forall_mem_cons]
    exact ⟨by decide, by decide, fun c hc => continue_unbroken (hgo c hc)⟩

theorem quoted_unbroken (text : List Char) : ∀ c ∈ quoted text, c ≠ '\n' ∧ c ≠ '\r' := by
  intro c hc
  rw [quoted, List.cons_append, List.mem_cons, List.mem_append, List.mem_singleton] at hc
  rcases hc with rfl | hescaped | rfl
  · decide
  · obtain ⟨d, -, hd⟩ := List.mem_flatMap.mp hescaped
    exact Literal.ne_break_of_isControl (Literal.isControl_of_mem_escapedChar hd)
  · decide

/-- A word in front. -/
theorem ScansTo.word {name : String} (hname : IsOneWord name) {text : List Char}
    {lexemes : List Lexeme} (h : ScansTo text lexemes) (bounded : IsBounded text) :
    ScansTo (name.toList ++ text) (.word name :: lexemes) where
  unbroken c hc := by
    rcases List.mem_append.mp hc with hc | hc
    · exact hname.unbroken c hc
    · exact h.unbroken c hc
  scan rest := by
    rw [List.append_assoc, scanAll_word hname (bounded.append rest), h.scan]
    cases scanAll rest <;> simp

/-- A string literal in front. -/
theorem ScansTo.string (value : String) {text : List Char} {lexemes : List Lexeme}
    (h : ScansTo text lexemes) (bounded : IsBounded text) :
    ScansTo (quoted value.toList ++ text) (.string value :: lexemes) where
  unbroken c hc := by
    rcases List.mem_append.mp hc with hc | hc
    · exact quoted_unbroken _ c hc
    · exact h.unbroken c hc
  scan rest := by
    rw [List.append_assoc, scanAll_quoted value (bounded.append rest).afterSuffix_eq, h.scan]
    cases scanAll rest <;> simp

/-! ### Fixed texts -/

/-- The lexemes of a fixed text: of its signs and blanks, and of its words, each with a
boundary after it.  What was read of a word so far is `word`. -/
def fixedLexemes? (word : List Char) : List Char → Option (List Lexeme)
  | [] => if word.isEmpty then some [] else none
  | c :: rest =>
    if isIdentifierContinue c then fixedLexemes? (word ++ [c]) rest
    else if isBoundary c && c != '\n' && c != '\r' then do
      let piece ← ofSingle? c
      let lexemes ← fixedLexemes? [] rest
      if word.isEmpty then some (piece ++ lexemes)
      else if IsOneWord (String.ofList word) then
        some (.word (String.ofList word) :: (piece ++ lexemes))
      else none
    else none

theorem scansTo_fixedLexemes {text rest : List Char} {lexemes : List Lexeme}
    (hrest : ScansTo rest lexemes) {word : List Char} {pieces : List Lexeme}
    (h : fixedLexemes? word text = some pieces) :
    ScansTo (word ++ text ++ rest) (pieces ++ lexemes) := by
  induction text generalizing word pieces with
  | nil =>
      cases word with
      | nil =>
          obtain rfl : [] = pieces := by simpa [fixedLexemes?] using h
          exact hrest
      | cons c word => simp [fixedLexemes?] at h
  | cons c text ih =>
      rw [fixedLexemes?] at h
      by_cases hgo : isIdentifierContinue c = true
      · rw [if_pos hgo] at h
        have hmore := ih h
        rwa [List.append_assoc word [c] text] at hmore
      · rw [if_neg hgo] at h
        by_cases hboundary : (isBoundary c && c != '\n' && c != '\r') = true
        · have hc : (isBoundary c = true ∧ c ≠ '\n') ∧ c ≠ '\r' := by simpa using hboundary
          simp only [hboundary, if_true, Option.bind_eq_bind, Option.bind_eq_some_iff] at h
          obtain ⟨piece, hpiece, others, hothers, hpieces⟩ := h
          have hafter : ScansTo (c :: (text ++ rest)) (piece ++ (others ++ lexemes)) :=
            (ih hothers).single hpiece hc.1.2 hc.2
          cases word with
          | nil =>
              obtain rfl : piece ++ others = pieces := by simpa using hpieces
              simpa using hafter
          | cons d word =>
              rw [List.isEmpty_cons, if_neg Bool.false_ne_true] at hpieces
              by_cases hword : IsOneWord (String.ofList (d :: word))
              · rw [if_pos hword, Option.some.injEq] at hpieces
                have hbounded : IsBounded (c :: (text ++ rest)) := hc.1.1
                have hwhole := hafter.word hword hbounded
                rw [String.toList_ofList] at hwhole
                rw [← hpieces]
                simpa using hwhole
              · rw [if_neg hword] at hpieces
                exact absurd hpieces (by simp)
        · simp [hboundary] at h

/-- A fixed text in front. -/
theorem ScansTo.fixed (text : String) (pieces : List Lexeme)
    (h : fixedLexemes? [] text.toList = some pieces) {rest : List Char} {lexemes : List Lexeme}
    (hrest : ScansTo rest lexemes) : ScansTo (text.toList ++ rest) (pieces ++ lexemes) :=
  scansTo_fixedLexemes hrest h

/-! ### Identifiers and paths -/

/-- Whether a name is an identifier: a word, perhaps a raw one, that is no keyword. -/
def IsIdentifier (name : String) : Prop :=
  IsOneWord name ∧ isKeyword name = false

instance (name : String) : Decidable (IsIdentifier name) :=
  inferInstanceAs (Decidable (_ ∧ _))

/-- The keywords that stand for modules and types. -/
def pathKeywords : List String :=
  ["crate", "self", "super", "Self"]

/-- Whether a name may stand in a path. -/
def IsSegment (name : String) : Prop :=
  IsOneWord name ∧ (isKeyword name = false ∨ name ∈ pathKeywords)

instance (name : String) : Decidable (IsSegment name) :=
  inferInstanceAs (Decidable (_ ∧ _))

/-- Whether a text consists of spaces and tabs. -/
def IsIndent (text : List Char) : Prop :=
  ∀ c ∈ text, c = ' ' ∨ c = '\t'

/-- **Paths**: names with two colons between them, and perhaps in front of them, where
there may be spaces and tabs around the colons. -/
inductive IsPath : List Char → List Lexeme → Prop where
  | name {name : String} (segment : IsSegment name) : IsPath name.toList [.word name]
  | rooted {name : String} {after : List Char} (segment : IsSegment name)
      (blank : IsIndent after) : IsPath (':' :: ':' :: after ++ name.toList) (path [name])
  | member {text : List Char} {lexemes : List Lexeme} {name : String}
      {before after : List Char} (module : IsPath text lexemes) (segment : IsSegment name)
      (blank : IsIndent before) (blank' : IsIndent after) :
      IsPath (text ++ (before ++ ':' :: ':' :: (after ++ name.toList))) (lexemes ++ path [name])

/-- Two colons. -/
def colons : List Lexeme :=
  [.punct ':', .punct ':']

namespace ScansTo

variable {text : List Char} {lexemes : List Lexeme}

/-- Spaces and tabs in front. -/
theorem indent {blanks : List Char} (hblanks : IsIndent blanks) (h : ScansTo text lexemes) :
    ScansTo (blanks ++ text) lexemes := by
  induction blanks with
  | nil => exact h
  | cons c blanks ih =>
      have hrest := ih fun d hd => hblanks d (List.mem_cons_of_mem _ hd)
      rcases hblanks c (by simp) with rfl | rfl
      · exact hrest.fixed " " [] rfl
      · exact hrest.fixed "\t" [] rfl

end ScansTo

theorem isBounded_indent {blanks text : List Char} (hblanks : IsIndent blanks)
    (bounded : IsBounded text) : IsBounded (blanks ++ text) := by
  cases blanks with
  | nil => exact bounded
  | cons c blanks => rcases hblanks c (by simp) with rfl | rfl <;> rfl

/-- **A path is spelled if a boundary follows.** -/
theorem IsPath.scansTo {text : List Char} {lexemes : List Lexeme} (h : IsPath text lexemes)
    {rest : List Char} {lexemes' : List Lexeme} (bounded : IsBounded rest)
    (hrest : ScansTo rest lexemes') : ScansTo (text ++ rest) (lexemes ++ lexemes') := by
  induction h generalizing rest lexemes' with
  | name segment => exact hrest.word segment.1 bounded
  | rooted segment blank =>
      have hwhole := ((hrest.word segment.1 bounded).indent blank).fixed "::" colons rfl
      simpa [path, colons] using hwhole
  | member _ segment blank blank' ih =>
      have hcolon := ((hrest.word segment.1 bounded).indent blank').fixed "::" colons rfl
      have hname := hcolon.indent blank
      have hcolons : ∀ after, IsBounded ("::".toList ++ after) := fun _ => rfl
      have hwhole := ih (isBounded_indent blank (hcolons _)) hname
      simpa [path, colons] using hwhole

/-! ### Matching delimiters -/

/-- Whether a lexeme is no delimiter. -/
def isPlain : Lexeme → Bool
  | .opening _ | .closing _ => false
  | .punct _ | .word _ | .string _ | .literal => true

/-- **Lexemes that close what they open and nothing else.** -/
def IsNeutral (lexemes : List Lexeme) : Prop :=
  ∀ unclosed rest, matchDelimiters unclosed (lexemes ++ rest) = matchDelimiters unclosed rest

namespace IsNeutral

variable {lexemes lexemes' : List Lexeme}

theorem nil : IsNeutral [] := fun _ _ => rfl

theorem append (h : IsNeutral lexemes) (h' : IsNeutral lexemes') :
    IsNeutral (lexemes ++ lexemes') := by
  intro unclosed rest
  rw [List.append_assoc, h, h']

/-- Lexemes that are no delimiters. -/
theorem plain (h : lexemes.all isPlain = true) : IsNeutral lexemes := by
  induction lexemes with
  | nil => exact nil
  | cons lexeme lexemes ih =>
      rw [List.all_cons, Bool.and_eq_true] at h
      intro unclosed rest
      rw [List.cons_append, ← ih h.2 unclosed rest]
      cases lexeme with
      | opening delimiter => simp [isPlain] at h
      | closing delimiter => simp [isPlain] at h
      | punct c => cases unclosed <;> rfl
      | word name => cases unclosed <;> rfl
      | string value => cases unclosed <;> rfl
      | literal => cases unclosed <;> rfl

theorem group (delimiter : Delimiter) (h : IsNeutral lexemes) :
    IsNeutral (group delimiter lexemes) := by
  intro unclosed rest
  have hopen : ∀ rest', matchDelimiters unclosed (.opening delimiter :: rest')
      = matchDelimiters (delimiter :: unclosed) rest' := by
    intro rest'
    cases unclosed <;> rfl
  rw [Source.group, List.append_assoc, List.cons_append, hopen, h]
  simp [matchDelimiters]

theorem flatMap {α : Type} {f : α → List Lexeme} {list : List α}
    (h : ∀ a ∈ list, IsNeutral (f a)) : IsNeutral (list.flatMap f) := by
  induction list with
  | nil => exact nil
  | cons a list ih =>
      rw [List.flatMap_cons]
      exact (h a (by simp)).append (ih fun b hb => h b (List.mem_cons_of_mem _ hb))

theorem path (names : List String) : IsNeutral (path names) :=
  flatMap fun _ _ => plain rfl

theorem separated {runs : List (List Lexeme)} (h : ∀ run ∈ runs, IsNeutral run) :
    IsNeutral (separated runs) := by
  induction runs with
  | nil => exact nil
  | cons run runs ih =>
      have hrun := h run (by simp)
      have hruns := ih fun other hother => h other (List.mem_cons_of_mem _ hother)
      have hcomma : IsNeutral [.punct ','] := plain rfl
      cases runs with
      | nil => simpa [Source.separated] using hrun
      | cons other runs =>
          have hwhole := hrun.append (hcomma.append hruns)
          simpa [Source.separated, List.intercalate] using hwhole

theorem isBalanced (h : IsNeutral lexemes) : isBalanced lexemes = true := by
  have hnil := h [] []
  rw [List.append_nil] at hnil
  exact hnil

end IsNeutral

theorem IsPath.isNeutral {text : List Char} {lexemes : List Lexeme} (h : IsPath text lexemes) :
    IsNeutral lexemes := by
  induction h with
  | name => exact IsNeutral.plain rfl
  | rooted => exact IsNeutral.path _
  | member _ _ _ _ ih => exact ih.append (IsNeutral.path _)

/-! ### Whole sources -/

/-- A byte order mark is no piece. -/
theorem scanAll_mark (rest : List Char) : scanAll ('\ufeff' :: rest) = none := by
  have hblank : isLayoutBlank '\ufeff' = false := by decide
  have hcomment : readComment ('\ufeff' :: rest) = none := readComment_eq_none (by decide) rest
  have hstart : isIdentifierStart '\ufeff' = false := by decide +kernel
  have hoperator : isOperatorChar '\ufeff' = false := by
    rw [isOperatorChar_eq]
    decide
  have hlexeme : readLexeme ('\ufeff' :: rest) = none := by
    simp [readLexeme, readDelimiter, readLiteral, readPunct, hoperator, readWord, readPlainWord,
      hstart]
  have hpiece : readPiece ('\ufeff' :: rest) = none := by
    simp only [readPiece, hblank, Bool.false_eq_true, if_false, hcomment, hlexeme,
      Option.map_none]
  rw [scanAll]
  simp [hpiece]

/-- A text that is scanned to balanced lexemes is source with these lexemes. -/
theorem scan?_eq {source : String} {lexemes : List Lexeme}
    (hscan : scanAll source.toList = some lexemes) (hneutral : IsNeutral lexemes) :
    scan? source = some lexemes := by
  have hmark : ∀ rest, source.toList ≠ '\ufeff' :: rest := by
    intro rest heq
    rw [heq, scanAll_mark] at hscan
    exact absurd hscan (by simp)
  unfold scan?
  split
  · rename_i rest heq
    exact absurd heq (hmark rest)
  · simp [hscan, hneutral.isBalanced]

end Source

end MessageTemplate
