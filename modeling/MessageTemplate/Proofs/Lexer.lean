/-
What the lexer makes of characters.

Lexing cuts a template where two neighbours do not join, so it can be taken piece by
piece: two texts may be lexed apart whenever the characters that meet do not join, and
next to a sign they never do.  A run is of one of three sorts, a sign, spaces, or
characters of words (`run_cases`), and each makes the token of its sort.
-/
import MessageTemplate.Token
import Mathlib.Data.List.SplitBy

namespace MessageTemplate

/-- A text that can stand as a name, an operator or a key: it is not empty, and holds
neither a sign nor a space. -/
def IsWord (text : String) : Prop :=
  text ≠ "" ∧ ∀ c ∈ text.toList, Token.isSign c = false ∧ c ≠ ' '

instance (text : String) : Decidable (IsWord text) :=
  decidable_of_iff (text ≠ "" ∧ text.toList.all fun c => !Token.isSign c && c != ' ')
    (by simp [IsWord])

/-- The tokens of characters. -/
def lexChars (chars : List Char) : List Token :=
  (chars.splitBy Token.joins).map Token.ofRun

theorem lex_eq_lexChars (template : String) : lex template = lexChars template.toList := rfl

/-! ### Cutting where nothing joins -/

theorem joins_eq_false_of_left {a : Char} (h : Token.isSign a = true) (b : Char) :
    Token.joins a b = false := by
  simp [Token.joins, h]

theorem joins_eq_false_of_right {b : Char} (h : Token.isSign b = true) (a : Char) :
    Token.joins a b = false := by
  simp [Token.joins, h]

/-- Characters are lexed apart where those that meet do not join. -/
theorem lexChars_append {first second : List Char}
    (h : ∀ x ∈ first.getLast?, ∀ y ∈ second.head?, Token.joins x y = false) :
    lexChars (first ++ second) = lexChars first ++ lexChars second := by
  unfold lexChars
  rw [List.splitBy_append h, List.map_append]

theorem lexChars_sign_cons {c : Char} (h : Token.isSign c = true) (rest : List Char) :
    lexChars (c :: rest) = Token.ofRun [c] :: lexChars rest := by
  have happend : lexChars ([c] ++ rest) = lexChars [c] ++ lexChars rest := by
    refine lexChars_append fun x hx y _ => ?_
    obtain rfl : c = x := by simpa using hx
    exact joins_eq_false_of_left h y
  simpa [lexChars, List.splitBy, List.splitBy.loop] using happend

theorem lexChars_append_sign {c : Char} (h : Token.isSign c = true)
    (first second : List Char) :
    lexChars (first ++ c :: second) = lexChars first ++ Token.ofRun [c] :: lexChars second := by
  rw [← lexChars_sign_cons h]
  refine lexChars_append fun x _ y hy => ?_
  obtain rfl : c = y := by simpa using hy
  exact joins_eq_false_of_right h x

/-! ### Runs -/

/-- The neighbours of a run of joined characters are of one sort with its first. -/
theorem isChain_joins_cons {a : Char} :
    ∀ {rest : List Char}, (a :: rest).IsChain (fun x y => Token.joins x y = true) →
      ∀ b ∈ rest, Token.isSign a = false ∧ Token.isSign b = false ∧ (b == ' ') = (a == ' ')
  | [], _ => by simp
  | b :: rest, h => by
      obtain ⟨hjoin, hrest⟩ := List.isChain_cons_cons.mp h
      have hab : (Token.isSign a = false ∧ Token.isSign b = false) ∧ (a == ' ') = (b == ' ') := by
        simpa [Token.joins] using hjoin
      intro c hc
      rcases List.mem_cons.mp hc with rfl | hc
      · exact ⟨hab.1.1, hab.1.2, hab.2.symm⟩
      · obtain ⟨-, hsign, hspace⟩ := isChain_joins_cons hrest c hc
        exact ⟨hab.1.1, hsign, hspace.trans hab.2.symm⟩

/-- A run is a sign, or spaces, or characters of a word. -/
theorem run_cases {run : List Char} (hne : run ≠ [])
    (hchain : run.IsChain fun x y => Token.joins x y = true) :
    (∃ c, run = [c] ∧ Token.isSign c = true) ∨ (∀ c ∈ run, c = ' ') ∨
      ∀ c ∈ run, Token.isSign c = false ∧ c ≠ ' ' := by
  cases run with
  | nil => exact absurd rfl hne
  | cons a rest =>
      have hrest := isChain_joins_cons hchain
      by_cases hsign : Token.isSign a = true
      · have hnil : rest = [] := by
          refine List.eq_nil_iff_forall_not_mem.mpr fun b hb => ?_
          rw [(hrest b hb).1] at hsign
          simp at hsign
        exact Or.inl ⟨a, by rw [hnil], hsign⟩
      · refine Or.inr ?_
        by_cases hspace : a = ' '
        · subst hspace
          refine Or.inl fun c hc => ?_
          rcases List.mem_cons.mp hc with rfl | hc
          · rfl
          · simpa using (hrest c hc).2.2
        · refine Or.inr fun c hc => ?_
          rcases List.mem_cons.mp hc with rfl | hc
          · exact ⟨by simpa using hsign, hspace⟩
          · obtain ⟨-, hsign', hspace'⟩ := hrest c hc
            refine ⟨hsign', fun h => hspace ?_⟩
            subst h
            simpa using hspace'.symm

@[simp] theorem source_ofRun (run : List Char) :
    (Token.ofRun run).source = String.ofList run := by
  unfold Token.ofRun
  split <;> rfl

theorem ofRun_spaces {run : List Char} (hne : run ≠ []) (h : ∀ c ∈ run, c = ' ') :
    Token.ofRun run = .spaces (String.ofList run) := by
  cases run with
  | nil => exact absurd rfl hne
  | cons a rest =>
      obtain rfl := h a (by simp)
      rfl

theorem ofRun_word {run : List Char} (h : ∀ c ∈ run, Token.isSign c = false ∧ c ≠ ' ') :
    Token.ofRun run = .text (String.ofList run) := by
  unfold Token.ofRun
  split
  case h_7 => rfl
  all_goals simp [Token.isSign] at h

/-- Characters of one run are one token. -/
theorem lexChars_run {run : List Char} (hne : run ≠ [])
    (hchain : run.IsChain fun x y => Token.joins x y = true) :
    lexChars run = [Token.ofRun run] := by
  unfold lexChars
  rw [List.splitBy_of_isChain hne hchain, List.map_singleton]

/-- The characters of a word are one run. -/
theorem IsWord.isChain_joins {text : String} (h : IsWord text) :
    text.toList.IsChain fun x y => Token.joins x y = true := by
  refine List.Pairwise.isChain (List.pairwise_of_forall_mem_list fun x hx y hy => ?_)
  obtain ⟨hxs, hx'⟩ := h.2 x hx
  obtain ⟨hys, hy'⟩ := h.2 y hy
  simp [Token.joins, hxs, hys, hx', hy']

/-- A word is lexed as one text. -/
theorem lexChars_word {text : String} (h : IsWord text) : lexChars text.toList = [.text text] := by
  have hne : text.toList ≠ [] := by simpa using h.1
  rw [lexChars_run hne h.isChain_joins, ofRun_word h.2, String.ofList_toList]

/-- Only characters of a template are in the sources of its tokens. -/
theorem mem_of_mem_lex {template : String} {token : Token} (h : token ∈ lex template) {c : Char}
    (hc : c ∈ token.source.toList) : c ∈ template.toList := by
  obtain ⟨run, hmem, rfl⟩ := List.mem_map.mp h
  rw [source_ofRun, String.toList_ofList] at hc
  rw [← List.flatten_splitBy Token.joins template.toList]
  exact List.mem_flatten.mpr ⟨run, hmem, hc⟩

/-! ### Templates put together -/

@[simp] theorem lex_empty : lex "" = [] := rfl

/-- A template is lexed apart at a sign. -/
theorem lex_sign {c : Char} (h : Token.isSign c = true) (before after : String) :
    lex (before ++ String.singleton c ++ after) = lex before ++ Token.ofRun [c] :: lex after := by
  simpa [lex_eq_lexChars] using lexChars_append_sign h before.toList after.toList

theorem lex_leftBrace (before after : String) :
    lex (before ++ "\x7b" ++ after) = lex before ++ .leftBrace :: lex after :=
  lex_sign (c := '{') rfl before after

theorem lex_rightBrace (before after : String) :
    lex (before ++ "\x7d" ++ after) = lex before ++ .rightBrace :: lex after :=
  lex_sign (c := '}') rfl before after

theorem lex_comma (before after : String) :
    lex (before ++ "," ++ after) = lex before ++ .comma :: lex after :=
  lex_sign (c := ',') rfl before after

theorem lex_quote (before after : String) :
    lex (before ++ "'" ++ after) = lex before ++ .quote :: lex after :=
  lex_sign (c := '\'') rfl before after

/-- A template is lexed apart after a sign. -/
theorem lex_append_of_ends {c : Char} (h : Token.isSign c = true) (before after : String) :
    lex (before ++ String.singleton c ++ after)
      = lex (before ++ String.singleton c) ++ lex after := by
  have hends := lex_sign h before ""
  rw [String.append_empty] at hends
  rw [lex_sign h, hends]
  simp

/-- A template is lexed apart before a sign. -/
theorem lex_append_of_begins {c : Char} (h : Token.isSign c = true) (before after : String) :
    lex (before ++ (String.singleton c ++ after))
      = lex before ++ lex (String.singleton c ++ after) := by
  have hbegins := lex_sign h "" after
  rw [String.empty_append] at hbegins
  rw [← String.append_assoc, lex_sign h, hbegins]
  simp

theorem lex_word {text : String} (h : IsWord text) : lex text = [.text text] :=
  lexChars_word h

/-- A space before a word is a token of its own. -/
theorem lex_space {text : String} (h : IsWord text) (after : String) :
    lex (" " ++ (text ++ after)) = .spaces " " :: lex (text ++ after) := by
  have hcut : lexChars ([' '] ++ (text.toList ++ after.toList))
      = lexChars [' '] ++ lexChars (text.toList ++ after.toList) := by
    refine lexChars_append fun x hx y hy => ?_
    obtain rfl : ' ' = x := by simpa using hx
    have hne : text.toList ≠ [] := by simpa using h.1
    rw [List.head?_append_of_ne_nil _ hne] at hy
    have hword := h.2 y (List.mem_of_mem_head? hy)
    simp [Token.joins, hword.2]
  have hspace : lexChars [' '] = [.spaces " "] := rfl
  rw [hspace] at hcut
  simpa [lex_eq_lexChars] using hcut

end MessageTemplate
