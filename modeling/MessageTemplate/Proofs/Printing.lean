/-
Printing trees.

A literal quotes the characters that would mean something in a sequence, each by itself,
and doubles its quotes.  Commas and spaces need no quotes, since a sequence reads both as
text.  The options of a branch are one space apart.

What a literal writes is read as its text however the lexer cuts it
(`isText_quoteText`).  The induction is on the characters that are still to be written
and keeps the last ones that were written as themselves, because only a sign says where
a run ends.
-/
import MessageTemplate.Proofs.NormalForm

namespace MessageTemplate

open Grammar (Sequence Item Content)
open Piece (partsAfter literalPart)

/-! ### The printer -/

/-- The characters that a literal quotes by themselves. -/
def needsQuotes (c : Char) : Bool :=
  c == '{' || c == '}' || c == '#'

/-- How a literal writes a character. -/
def quoteChar (c : Char) : String :=
  if c = '\'' then "''"
  else if needsQuotes c then "'" ++ String.singleton c ++ "'"
  else String.singleton c

/-- How a literal writes its text. -/
def quoteText (text : String) : String :=
  String.join (text.toList.map quoteChar)

/-- A text between braces. -/
def inBraces (text : String) : String :=
  "\x7b" ++ text ++ "\x7d"

mutual

/-- The template that a tree is written as. -/
def Node.print : Node → String
  | .sequence parts => printParts parts
  | .literal text => quoteText text
  | .numberField => "#"
  | .placeholder name => inBraces name
  | .branch choice =>
    inBraces (choice.name ++ "," ++ choice.kind.operator ++ "," ++
      " ".intercalate (optionTexts choice.options))

/-- The parts of a sequence are written one after the other. -/
def printParts : List Node → String
  | [] => ""
  | part :: rest => part.print ++ printParts rest

/-- How each option is written. -/
def optionTexts : List (String × Node) → List String
  | [] => []
  | (key, content) :: rest => (key ++ inBraces content.print) :: optionTexts rest

end

variable {inPlural : Bool}

/-! ### Tokens that are text -/

/-- Tokens that a sequence reads as a text. -/
def IsText (inPlural : Bool) (tokens : List Token) (text : String) : Prop :=
  ∃ pieces, Sequence inPlural tokens pieces ∧
    ∀ before rest, partsAfter before (pieces ++ rest) = partsAfter (before ++ text) rest

namespace IsText

theorem nil : IsText inPlural [] "" :=
  ⟨[], Sequence.nil, fun before rest => by simp⟩

theorem item {tokens : List Token} {text : String} (item : Item inPlural tokens (.text text)) :
    IsText inPlural tokens text :=
  ⟨[.text text], Sequence.single item, fun _ _ => rfl⟩

theorem append {first second : List Token} {text more : String}
    (hfirst : IsText inPlural first text) (hsecond : IsText inPlural second more) :
    IsText inPlural (first ++ second) (text ++ more) := by
  obtain ⟨pieces, hpieces, hread⟩ := hfirst
  obtain ⟨others, hothers, hread'⟩ := hsecond
  refine ⟨pieces ++ others, hpieces.append hothers, fun before rest => ?_⟩
  rw [List.append_assoc, hread, hread', String.append_assoc]

/-- Tokens that are text one by one are text together. -/
theorem ofTokens {tokens : List Token}
    (h : ∀ token ∈ tokens, IsText inPlural [token] token.source) :
    IsText inPlural tokens (sources tokens) := by
  induction tokens with
  | nil => exact nil
  | cons token tokens ih =>
      rw [sources_cons]
      have htoken := h token (by simp)
      exact htoken.append (ih fun other hother => h other (List.mem_cons_of_mem _ hother))

end IsText

/-- A character that a literal writes as itself. -/
def IsPlain (c : Char) : Prop :=
  c ≠ '\'' ∧ needsQuotes c = false

/-- Characters that are written as themselves are read as what they are. -/
theorem isText_plain {text : String} (h : ∀ c ∈ text.toList, IsPlain c) :
    IsText inPlural (lex text) text := by
  have htoken : ∀ token ∈ lex text, IsText inPlural [token] token.source := by
    intro token htoken
    have hplain := fun c hc => h c (mem_of_mem_lex htoken hc)
    cases token with
    | leftBrace => exact absurd (hplain '{' (by simp [Token.source])).2 (by decide)
    | rightBrace => exact absurd (hplain '}' (by simp [Token.source])).2 (by decide)
    | hash => exact absurd (hplain '#' (by simp [Token.source])).2 (by decide)
    | quote => exact absurd rfl (hplain '\'' (by simp [Token.source])).1
    | comma => exact IsText.item Item.comma
    | spaces run => exact IsText.item (Item.spaces run)
    | text run => exact IsText.item (Item.text run)
  have hall := IsText.ofTokens htoken
  rwa [sources_lex] at hall

/-- A character is written as itself, or by tokens that are cut off from what is around
them and read as the character. -/
theorem quoteChar_cases (inPlural : Bool) (c : Char) :
    (IsPlain c ∧ quoteChar c = String.singleton c) ∨
      ∃ tokens, IsText inPlural tokens (String.singleton c) ∧
        ∀ before after,
          lex (before ++ quoteChar c ++ after) = lex before ++ tokens ++ lex after := by
  unfold quoteChar
  by_cases hquote : c = '\''
  · subst hquote
    refine Or.inr ⟨[.quote, .quote], IsText.item Item.doubledQuote, fun before after => ?_⟩
    have hdoubled : before ++ "''" ++ after = before ++ "'" ++ ("" ++ "'" ++ after) := by
      simp [← String.toList_inj]
    rw [if_pos rfl, hdoubled, lex_quote, lex_quote]
    simp
  · rw [if_neg hquote]
    by_cases hneeds : needsQuotes c = true
    · have hcases : (c = '{' ∨ c = '}') ∨ c = '#' := by simpa [needsQuotes] using hneeds
      have hsign : Token.isSign c = true := by
        obtain (rfl | rfl) | rfl := hcases <;> rfl
      have hunquoted : Token.quote ∉ [Token.ofRun [c]] := by
        obtain (rfl | rfl) | rfl := hcases <;> decide
      have hsources : sources [Token.ofRun [c]] = String.singleton c := by
        simp [sources]
      refine Or.inr ⟨[.quote, Token.ofRun [c], .quote], ?_, fun before after => ?_⟩
      · rw [← hsources]
        exact IsText.item (Item.quoted (by simp) hunquoted)
      · have hparts : before ++ ("'" ++ String.singleton c ++ "'") ++ after
            = before ++ "'" ++ ("" ++ String.singleton c ++ ("" ++ "'" ++ after)) := by
          simp [← String.toList_inj]
        rw [if_pos hneeds, hparts, lex_quote, lex_sign hsign, lex_quote]
        simp
    · exact Or.inl ⟨⟨hquote, by simpa using hneeds⟩, if_neg hneeds⟩

/-- What a literal writes is read as its text, also after characters that are written as
themselves.

These are kept together with the characters that follow, since the lexer may put both
into one run. -/
theorem isText_quoteChars (plain : String) (h : ∀ c ∈ plain.toList, IsPlain c)
    (chars : List Char) :
    IsText inPlural (lex (plain ++ String.join (chars.map quoteChar)))
      (plain ++ String.ofList chars) := by
  induction chars generalizing plain with
  | nil => simpa using isText_plain h
  | cons c chars ih =>
      rw [List.map_cons, String.join_cons, String.ofList_cons, ← String.append_assoc,
        ← String.append_assoc]
      rcases quoteChar_cases inPlural c with ⟨hc, hself⟩ | ⟨tokens, hc, hlex⟩
      · rw [hself]
        refine ih _ fun d hd => ?_
        rw [String.toList_append, String.toList_singleton] at hd
        rcases List.mem_append.mp hd with hd | hd
        · exact h d hd
        · rwa [List.mem_singleton.mp hd]
      · have hrest : IsText inPlural (lex (String.join (chars.map quoteChar)))
            (String.ofList chars) := by
          simpa using ih "" (by simp)
        rw [hlex]
        exact ((isText_plain h).append hc).append hrest

theorem isText_quoteText (text : String) : IsText inPlural (lex (quoteText text)) text := by
  have h : IsText inPlural _ _ := isText_quoteChars "" (by simp) text.toList
  simpa [quoteText] using h

example : quoteText "it's \x7b#\x7d, or" = "it''s '\x7b''#''\x7d', or" := rfl

/-! ### Tokens that are parts -/

/-- Tokens that a sequence reads as parts, also after some text if the parts do not begin
with text. -/
def Spells (inPlural : Bool) (tokens : List Token) (parts : List Node) : Prop :=
  ∃ pieces, Sequence inPlural tokens pieces ∧
    ∀ before, before = "" ∨ (∀ part ∈ parts.head?, part.isLiteral = false) →
      partsAfter before pieces = literalPart before ++ parts

namespace Spells

theorem nil : Spells inPlural [] [] :=
  ⟨[], Sequence.nil, fun before _ => by simp [partsAfter]⟩

theorem node {tokens rest : List Token} {part : Node} {parts : List Node}
    (item : Item inPlural tokens (.node part)) (h : Spells inPlural rest parts) :
    Spells inPlural (tokens ++ rest) (part :: parts) := by
  obtain ⟨pieces, sequence, hread⟩ := h
  refine ⟨.node part :: pieces, Sequence.cons item sequence, fun before _ => ?_⟩
  have hrest : partsAfter "" pieces = parts := hread "" (Or.inl rfl)
  rw [partsAfter, hrest]

/-- Text makes a literal if it is not empty and no literal follows. -/
theorem literal {tokens rest : List Token} {text : String} {parts : List Node}
    (htext : IsText inPlural tokens text) (nonempty : text ≠ "")
    (h : Spells inPlural rest parts) (apart : ∀ part ∈ parts.head?, part.isLiteral = false) :
    Spells inPlural (tokens ++ rest) (.literal text :: parts) := by
  obtain ⟨pieces, sequence, hread⟩ := htext
  obtain ⟨others, hothers, hparts⟩ := h
  refine ⟨pieces ++ others, sequence.append hothers, fun before hbefore => ?_⟩
  obtain rfl : before = "" := by
    rcases hbefore with hbefore | hliteral
    · exact hbefore
    · simp [Node.isLiteral] at hliteral
  rw [hread, hparts _ (Or.inr apart), String.empty_append]
  simp [literalPart, nonempty]

end Spells

/-- What spells parts is a content that has these parts. -/
theorem Spells.content {tokens : List Token} {parts : List Node}
    (h : Spells inPlural tokens parts) : Content inPlural tokens (Node.ofParts parts) := by
  obtain ⟨pieces, sequence, hread⟩ := h
  have hparts : partsAfter "" pieces = parts := hread "" (Or.inl rfl)
  exact ⟨pieces, sequence, by rw [Piece.assemble_eq_ofParts, hparts]⟩

theorem Grammar.Content.item {tokens : List Token} {node : Node}
    (item : Item inPlural tokens (.node node)) : Content inPlural tokens node := by
  have h := (Spells.node item Spells.nil).content
  rwa [List.append_nil] at h

theorem Grammar.Content.text {tokens : List Token} {text : String}
    (htext : IsText inPlural tokens text) (nonempty : text ≠ "") :
    Content inPlural tokens (.literal text) := by
  have h := (Spells.literal htext nonempty Spells.nil (by simp)).content
  rwa [List.append_nil] at h

theorem ofParts_of_length_ne {parts : List Node} (h : parts.length ≠ 1) :
    Node.ofParts parts = .sequence parts := by
  unfold Node.ofParts
  split
  · exact absurd rfl h
  · rfl

end MessageTemplate
