/-
Canonical token lists.

The lexer loses nothing, so a template can be had back from its tokens.  The other way
round, not every list of tokens comes from a template: a run is never empty and never
holds a character of another sort, and no two runs of one sort stand side by side, for
they would have been one run.  That is all there is to it: a list that keeps these two
rules is the list of tokens of its own sources.

The argument goes through the runs of characters.  The lexer cuts where neighbours do not
join, a list of runs is cut that way in one way only, and whether the characters at a seam
join depends only on the sorts of the two tokens (`joins_seam`).
-/
import MessageTemplate.Proofs.Grammar
import MessageTemplate.Proofs.Lexer

namespace MessageTemplate

namespace Token

/-- Whether a token is a run of spaces. -/
def isSpaces : Token → Bool
  | spaces _ => true
  | _ => false

/-- Whether a token is a run of text. -/
def isText : Token → Bool
  | text _ => true
  | _ => false

/-- A token as the lexer makes it: a run is not empty, and its characters are of its
sort. -/
def IsRun : Token → Prop
  | spaces run => run ≠ "" ∧ ∀ c ∈ run.toList, c = ' '
  | text run => IsWord run
  | _ => True

instance (token : Token) : Decidable token.IsRun :=
  match token with
  | spaces run =>
    decidable_of_iff (run ≠ "" ∧ run.toList.all fun c => c == ' ') (by simp [IsRun])
  | text run => inferInstanceAs (Decidable (IsWord run))
  | leftBrace | rightBrace | comma | hash | quote => inferInstanceAs (Decidable True)

/-- Two tokens that are no two runs of one sort. -/
def Apart (first second : Token) : Prop :=
  ¬(first.isText ∧ second.isText) ∧ ¬(first.isSpaces ∧ second.isSpaces)

instance : DecidableRel Apart := fun first second =>
  inferInstanceAs (Decidable (¬(first.isText ∧ second.isText) ∧
    ¬(first.isSpaces ∧ second.isSpaces)))

end Token

/-- Tokens as the lexer makes them, one by one and side by side. -/
structure Canonical (tokens : List Token) : Prop where
  runs : ∀ token ∈ tokens, token.IsRun
  apart : tokens.IsChain Token.Apart

instance (tokens : List Token) : Decidable (Canonical tokens) :=
  decidable_of_iff ((∀ token ∈ tokens, token.IsRun) ∧ tokens.IsChain Token.Apart)
    ⟨fun h => ⟨h.1, h.2⟩, fun h => ⟨h.runs, h.apart⟩⟩

/-! ### Tokens and their characters -/

namespace Token.IsRun

variable {token : Token}

theorem source_ne_nil (h : token.IsRun) : token.source.toList ≠ [] := by
  cases token with
  | spaces run => simpa [source] using h.1
  | text run => simpa [source] using h.1
  | _ => simp [source]

/-- The sort of a token is the sort of its characters. -/
theorem sort (h : token.IsRun) {c : Char} (hc : c ∈ token.source.toList) :
    isSign c = (!token.isText && !token.isSpaces) ∧ (c == ' ') = token.isSpaces := by
  cases token with
  | spaces run =>
      obtain rfl := h.2 c hc
      exact ⟨rfl, rfl⟩
  | text run =>
      obtain ⟨hsign, hspace⟩ := h.2 c hc
      exact ⟨hsign, by simpa [isSpaces] using hspace⟩
  | _ =>
      obtain rfl := by simpa [source] using hc
      exact ⟨rfl, rfl⟩

/-- A token can be had back from its characters. -/
theorem ofRun_source (h : token.IsRun) : ofRun token.source.toList = token := by
  cases token with
  | spaces run =>
      change ofRun run.toList = _
      rw [ofRun_spaces (by simpa using h.1) h.2, String.ofList_toList]
  | text run =>
      change ofRun run.toList = _
      rw [ofRun_word h.2, String.ofList_toList]
  | _ => rfl

theorem isChain_source (h : token.IsRun) :
    token.source.toList.IsChain fun x y => joins x y = true := by
  cases token with
  | spaces run =>
      refine List.Pairwise.isChain (List.pairwise_of_forall_mem_list fun x hx y hy => ?_)
      rw [h.2 x hx, h.2 y hy]
      rfl
  | text run => exact IsWord.isChain_joins h
  | _ => exact List.isChain_singleton _

/-- Characters of two tokens join exactly when these are runs of one sort. -/
theorem joins_seam {first second : Token} (hfirst : first.IsRun) (hsecond : second.IsRun)
    {x y : Char} (hx : x ∈ first.source.toList) (hy : y ∈ second.source.toList) :
    joins x y = false ↔ first.Apart second := by
  obtain ⟨hsign, hspace⟩ := hfirst.sort hx
  obtain ⟨hsign', hspace'⟩ := hsecond.sort hy
  unfold joins
  rw [hsign, hspace, hsign', hspace']
  cases first <;> cases second <;> simp [Apart, isText, isSpaces]

end Token.IsRun

/-! ### What the lexer makes -/

/-- A run of joined characters makes a token as it should be. -/
theorem isRun_ofRun {run : List Char} (hne : run ≠ [])
    (hchain : run.IsChain fun x y => Token.joins x y = true) : (Token.ofRun run).IsRun := by
  obtain ⟨c, rfl, hsign⟩ | hspaces | hword := run_cases hne hchain
  · simp only [Token.isSign, Bool.or_eq_true, beq_iff_eq] at hsign
    obtain (((rfl | rfl) | rfl) | rfl) | rfl := hsign <;> trivial
  · rw [ofRun_spaces hne hspaces]
    exact ⟨by simpa using hne, by simpa using hspaces⟩
  · rw [ofRun_word hword]
    exact ⟨by simpa using hne, by simpa using hword⟩

/-- The lexer loses nothing. -/
theorem sources_lex (template : String) : sources (lex template) = template := by
  have hsource : (fun token => token.source.toList) ∘ Token.ofRun = id := by
    funext run
    simp
  rw [← String.toList_inj, toList_sources, lex, List.map_map, hsource, List.map_id,
    List.flatten_splitBy]

/-- The tokens of a template are canonical. -/
theorem canonical_lex (template : String) : Canonical (lex template) where
  runs := by
    intro token htoken
    obtain ⟨run, hrun, rfl⟩ := List.mem_map.mp htoken
    exact isRun_ofRun (List.ne_nil_of_mem_splitBy hrun) (List.isChain_of_mem_splitBy hrun)
  apart := by
    refine (List.isChain_map _).mpr ?_
    refine (List.isChain_getLast_head_splitBy Token.joins template.toList).imp_of_mem_imp ?_
    rintro first second hfirst hsecond ⟨hne, hne', hjoins⟩
    have hrun := isRun_ofRun hne (List.isChain_of_mem_splitBy hfirst)
    have hrun' := isRun_ofRun hne' (List.isChain_of_mem_splitBy hsecond)
    refine (hrun.joins_seam hrun' ?_ ?_).mp hjoins
    · rw [source_ofRun, String.toList_ofList]
      exact List.getLast_mem hne
    · rw [source_ofRun, String.toList_ofList]
      exact List.head_mem hne'

/-- The texts among the tokens of a template are words. -/
theorem isWord_of_mem_lex {template : String} {run : String}
    (h : Token.text run ∈ lex template) : IsWord run :=
  (canonical_lex template).runs _ h

/-! ### What the lexer reads back -/

/-- Canonical tokens are the tokens of their sources. -/
theorem lex_sources {tokens : List Token} (h : Canonical tokens) :
    lex (sources tokens) = tokens := by
  have hruns : (sources tokens).toList.splitBy Token.joins
      = tokens.map fun token => token.source.toList := by
    refine List.splitBy_eq_iff.mpr ⟨?_, ?_, ?_, ?_⟩
    · exact toList_sources tokens
    · intro hnil
      obtain ⟨token, htoken, hsource⟩ := List.mem_map.mp hnil
      exact (h.runs token htoken).source_ne_nil hsource
    · intro run hrun
      obtain ⟨token, htoken, rfl⟩ := List.mem_map.mp hrun
      exact (h.runs token htoken).isChain_source
    · refine (List.isChain_map _).mpr (h.apart.imp_of_mem_imp ?_)
      intro first second hfirst hsecond hapart
      have hrun := h.runs first hfirst
      have hrun' := h.runs second hsecond
      refine ⟨hrun.source_ne_nil, hrun'.source_ne_nil, ?_⟩
      exact (hrun.joins_seam hrun' (List.getLast_mem _) (List.head_mem _)).mpr hapart
  calc lex (sources tokens)
      = (tokens.map fun token => token.source.toList).map Token.ofRun := by rw [lex, hruns]
    _ = tokens.map fun token => Token.ofRun token.source.toList := List.map_map
    _ = tokens := by
        conv_rhs => rw [← List.map_id tokens]
        exact List.map_congr_left fun token htoken => (h.runs token htoken).ofRun_source

/--
**Lexing is a bijection onto the canonical token lists.**

The tokens of a template are canonical, cover it without loss and have its length between
them; and canonical tokens are the tokens of the template that their sources make.
-/
theorem lex_bijective :
    (∀ template, sources (lex template) = template ∧
      ((lex template).map Token.length).sum = template.length ∧ Canonical (lex template)) ∧
    ∀ tokens, Canonical tokens → lex (sources tokens) = tokens := by
  refine ⟨fun template => ⟨sources_lex template, ?_, canonical_lex template⟩,
    fun _ => lex_sources⟩
  rw [← length_sources, sources_lex]

/-- Quotes side by side, spaces beside a line break, which is text, and a character of
three bytes. -/
theorem lex_bijective_quotes :
    let tokens : List Token :=
      [.quote, .quote, .text "€\n", .spaces "  ", .text "\t", .hash, .spaces " ", .comma]
    Canonical tokens ∧ lex (sources tokens) = tokens := by
  intro tokens
  have h : Canonical tokens := by decide
  exact ⟨h, lex_bijective.2 tokens h⟩

end MessageTemplate
