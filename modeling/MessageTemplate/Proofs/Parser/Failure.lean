/-
Where a run fails, and what the limit on depth has to do with it.

A run fails in one of two ways: a walk over some first tokens leads to a machine that
refuses the next one, or a walk over all of them leads to a machine that cannot finish.
`Fails` says so without offsets, because the place of an error is a function of the
tokens before it (`parseTokens_eq_error_iff`).

The limit enters a step in one place only.  Either the step does not look at it, or it
opens a frame and the limit alone decides between that frame and the fault
(`step_by_limit`).  So a limit can cut a walk off, and that is all it can do.
-/
import MessageTemplate.Proofs.Parser.Machine

namespace MessageTemplate

namespace Parser

variable {maxDepth : Nat}

/-! ### What the limit decides -/

/-- A fault that is not about the limit on depth. -/
def AboutTokens (fault : ParseFault) : Prop :=
  ∀ limit, fault ≠ .nestingTooDeep limit

/-- A step that does not look at the limit. -/
def Unlimited (parser : Parser) (token : Token) : Prop :=
  ∃ result : Except ParseFault Parser,
    (∀ limit, parser.step limit token = result) ∧
      ∀ fault, result = .error fault → AboutTokens fault

/-- A step that opens a frame if the limit lets it. -/
def Opens (parser : Parser) (token : Token) : Prop :=
  ∃ next : Parser, ∀ limit, parser.step limit token
    = if limit ≤ parser.stack.length then .error (.nestingTooDeep limit) else .ok next

theorem unlimited_of_ok {parser next : Parser} {token : Token}
    (h : ∀ limit, parser.step limit token = .ok next) : parser.Unlimited token :=
  ⟨.ok next, h, by simp⟩

theorem closeContent_aboutTokens {parser : Parser} {fault : ParseFault}
    (h : parser.closeContent = .error fault) : AboutTokens fault := by
  unfold closeContent at h
  split at h
  · simp at h
  · obtain rfl := Except.error.inj h
    exact fun limit => by simp

theorem step_by_limit_of_inSequence {parser : Parser} (hin : parser.InSequence)
    (token : Token) : parser.Unlimited token ∨ parser.Opens token := by
  have hstep : ∀ limit, parser.step limit token = parser.stepSequence limit token :=
    fun limit => step_of_inSequence hin limit token
  cases token with
  | leftBrace => exact Or.inr ⟨_, hstep⟩
  | quote => exact Or.inr ⟨_, hstep⟩
  | rightBrace => exact Or.inl ⟨_, hstep, fun _ => closeContent_aboutTokens⟩
  | comma => exact Or.inl (unlimited_of_ok hstep)
  | hash => exact Or.inl (unlimited_of_ok hstep)
  | spaces run => exact Or.inl (unlimited_of_ok hstep)
  | text run => exact Or.inl (unlimited_of_ok hstep)

/-- Inside braces only the opening of a content looks at the limit. -/
theorem step_by_limit_of_replacement (parser : Parser) (stage : ReplacementStage)
    (token : Token) :
    (parser.push (.replacement stage)).Unlimited token ∨
      (parser.push (.replacement stage)).Opens token := by
  have hstep : ∀ limit, (parser.push (.replacement stage)).step limit token
      = parser.stepReplacement limit stage token :=
    fun limit => step_push_replacement parser stage limit token
  by_cases hopens : ∃ branch key, stage = .options branch (some key) ∧ token = .leftBrace
  · obtain ⟨branch, key, rfl, rfl⟩ := hopens
    exact Or.inr ⟨_, hstep⟩
  · refine Or.inl ⟨parser.stepReplacement 0 stage token, fun limit => ?_, fun fault h => ?_⟩
    · rw [hstep]
      unfold stepReplacement
      split
      case h_8 => exact absurd ⟨_, _, rfl, rfl⟩ hopens
      all_goals rfl
    · unfold stepReplacement at h
      split at h
      case h_8 => exact absurd ⟨_, _, rfl, rfl⟩ hopens
      -- The faults are a wrong operator, a branch without options and a token out of place.
      case h_5 =>
          split at h
          · simp at h
          · obtain rfl := Except.error.inj h
            exact fun limit => by simp
      case h_9 =>
          split at h
          · obtain rfl := Except.error.inj h
            exact fun limit => by simp
          · simp at h
      case h_10 =>
          obtain rfl := Except.error.inj h
          exact fun limit => by simp
      all_goals simp at h

/-- **A step does not look at the limit, or the limit decides whether a frame opens.** -/
theorem step_by_limit (parser : Parser) (token : Token) :
    parser.Unlimited token ∨ parser.Opens token := by
  obtain hin | ⟨below, consumed, rfl⟩ | ⟨below, stage, rfl⟩ := parser.inSequence_or
  · exact step_by_limit_of_inSequence hin token
  · exact Or.inl (unlimited_of_ok fun _ => rfl)
  · exact step_by_limit_of_replacement below stage token

/-- A fault that is not about the limit comes under every limit. -/
theorem step_eq_error_of_aboutTokens {parser : Parser} {token : Token} {fault : ParseFault}
    (h : parser.step maxDepth token = .error fault) (about : AboutTokens fault) (limit : Nat) :
    parser.step limit token = .error fault := by
  rcases parser.step_by_limit token with ⟨result, hresult, -⟩ | ⟨next, hopens⟩
  · rw [hresult, ← hresult maxDepth, h]
  · rw [hopens] at h
    split at h
    · exact absurd (Except.error.inj h).symm (about maxDepth)
    · simp at h

/-- A frame that a limit does not let open opens under each limit that has room for it. -/
theorem exists_step_of_nestingTooDeep {parser : Parser} {token : Token} {limit : Nat}
    (h : parser.step maxDepth token = .error (.nestingTooDeep limit)) :
    ∃ next, ∀ larger, parser.stack.length < larger → parser.step larger token = .ok next := by
  rcases parser.step_by_limit token with ⟨result, hresult, habout⟩ | ⟨next, hopens⟩
  · rw [hresult] at h
    exact absurd rfl (habout _ h limit)
  · exact ⟨next, fun larger hlarger => by rw [hopens, if_neg (Nat.not_le.mpr hlarger)]⟩

/-- Under another limit a step does the same, unless that limit stops it. -/
theorem step_eq_ok_or {parser next : Parser} {token : Token}
    (h : parser.step maxDepth token = .ok next) (limit : Nat) :
    parser.step limit token = .ok next ∨
      parser.step limit token = .error (.nestingTooDeep limit) := by
  rcases parser.step_by_limit token with ⟨result, hresult, -⟩ | ⟨other, hopens⟩
  · exact Or.inl (by rw [hresult, ← hresult maxDepth, h])
  · rw [hopens] at h ⊢
    split at h
    · simp at h
    · rw [← h]
      split
      · exact Or.inr rfl
      · exact Or.inl rfl

/-! ### Walks that end in a fault -/

theorem feed_cons_error {parser : Parser} {token : Token} {fault : ParseFault}
    (h : parser.step maxDepth token = .error fault) (rest : List Token) :
    parser.feed maxDepth (token :: rest) = .error fault := by
  rw [feed, h]

/-- What comes after a fault does not matter. -/
theorem feed_append_error {parser : Parser} {tokens : List Token} {fault : ParseFault}
    (h : parser.feed maxDepth tokens = .error fault) (rest : List Token) :
    parser.feed maxDepth (tokens ++ rest) = .error fault := by
  induction tokens generalizing parser with
  | nil => simp [feed] at h
  | cons token tokens ih =>
      rw [List.cons_append]
      cases hstep : parser.step maxDepth token with
      | ok next =>
          rw [feed_cons hstep] at h ⊢
          exact ih h
      | error other =>
          rw [feed_cons_error hstep] at h ⊢
          exact h

/-- A walk over two lists is a walk over the one and then over the other. -/
theorem exists_feed_of_append {parser last : Parser} {tokens rest : List Token}
    (h : parser.feed maxDepth (tokens ++ rest) = .ok last) :
    ∃ next, parser.feed maxDepth tokens = .ok next ∧ next.feed maxDepth rest = .ok last := by
  cases hfeed : parser.feed maxDepth tokens with
  | ok next => exact ⟨next, rfl, by rwa [feed_append hfeed] at h⟩
  | error fault =>
      rw [feed_append_error hfeed] at h
      simp at h

/-- Under another limit a walk leads to the same machine, unless that limit stops it. -/
theorem feed_eq_ok_or {parser last : Parser} {tokens : List Token}
    (h : parser.feed maxDepth tokens = .ok last) (limit : Nat) :
    parser.feed limit tokens = .ok last ∨ ∃ fault, parser.feed limit tokens = .error fault := by
  induction tokens generalizing parser with
  | nil => exact Or.inl h
  | cons token tokens ih =>
      obtain ⟨next, hstep, hrest⟩ := feed_cons_eq_ok_iff.mp h
      rcases step_eq_ok_or hstep limit with hok | hdeep
      · rw [feed_cons hok]
        exact ih hrest
      · exact Or.inr ⟨_, feed_cons_error hdeep tokens⟩

/-- A walk into a fault that is not about the limit is no walk under any limit. -/
theorem feed_ne_ok {parser last : Parser} {before : List Token} {token : Token}
    {fault : ParseFault} (hwalk : parser.feed maxDepth before = .ok last)
    (hstep : last.step maxDepth token = .error fault) (about : AboutTokens fault)
    (limit : Nat) (rest : List Token) (other : Parser) :
    parser.feed limit (before ++ token :: rest) ≠ .ok other := by
  intro hother
  rcases feed_eq_ok_or hwalk limit with hok | ⟨_, herror⟩
  · rw [feed_append hok,
      feed_cons_error (step_eq_error_of_aboutTokens hstep about limit)] at hother
    simp at hother
  · rw [feed_append_error herror] at hother
    simp at hother

/-! ### Runs that fail -/

theorem finish_fault {last : Parser} {fault : ParseFault} (h : last.finish = .error fault) :
    fault = .unclosedBrace ∨ fault = .unclosedQuote := by
  unfold finish at h
  split at h
  · simp at h
  · exact Or.inr (Except.error.inj h).symm
  · exact Or.inl (Except.error.inj h).symm

/-- How tokens fail: `before` are those that were taken when the fault came. -/
inductive Fails (maxDepth : Nat) (parser : Parser) (fault : ParseFault) :
    (tokens before : List Token) → Prop
  | step {before after : List Token} {token : Token} {last : Parser}
      (walk : parser.feed maxDepth before = .ok last)
      (refused : last.step maxDepth token = .error fault) :
      Fails maxDepth parser fault (before ++ token :: after) before
  | finish {tokens : List Token} {last : Parser} (walk : parser.feed maxDepth tokens = .ok last)
      (unfinished : last.finish = .error fault) : Fails maxDepth parser fault tokens tokens

theorem Fails.cons {parser next : Parser} {fault : ParseFault} {tokens before : List Token}
    {token : Token} (hstep : parser.step maxDepth token = .ok next)
    (h : Fails maxDepth next fault tokens before) :
    Fails maxDepth parser fault (token :: tokens) (token :: before) := by
  cases h with
  | step walk refused => exact Fails.step (by rwa [feed_cons hstep]) refused
  | finish walk unfinished => exact Fails.finish (by rwa [feed_cons hstep]) unfinished

theorem length_sources_cons (token : Token) (tokens : List Token) :
    (sources (token :: tokens)).length = token.length + (sources tokens).length := by
  rw [sources_cons, String.length_append]
  rfl

/-- A run goes on from where a walk leads. -/
theorem run_append {parser next : Parser} {tokens : List Token}
    (h : parser.feed maxDepth tokens = .ok next) (offset index : Nat) (rest : List Token) :
    parser.run maxDepth offset index (tokens ++ rest)
      = next.run maxDepth (offset + (sources tokens).length) (index + tokens.length) rest := by
  induction tokens generalizing parser offset index with
  | nil =>
      obtain rfl := Except.ok.inj h
      rfl
  | cons token tokens ih =>
      obtain ⟨after, hstep, hrest⟩ := feed_cons_eq_ok_iff.mp h
      rw [List.cons_append, run, hstep, length_sources_cons, List.length_cons]
      simp only [ih hrest]
      congr 1 <;> omega

/-- A run that fails tells the place of its fault. -/
theorem fails_of_run {parser : Parser} {offset index : Nat} {tokens : List Token}
    {error : ParseError} (h : parser.run maxDepth offset index tokens = .error error) :
    ∃ before, Fails maxDepth parser error.fault tokens before ∧
      error.offset = offset + (sources before).length ∧
      error.tokenIndex = index + before.length := by
  induction tokens generalizing parser offset index with
  | nil =>
      rw [run] at h
      cases hfinish : parser.finish with
      | ok node => simp [hfinish] at h
      | error fault =>
          simp only [hfinish] at h
          obtain rfl := Except.error.inj h
          exact ⟨[], Fails.finish rfl hfinish, rfl, rfl⟩
  | cons token tokens ih =>
      rw [run] at h
      cases hstep : parser.step maxDepth token with
      | error fault =>
          simp only [hstep] at h
          obtain rfl := Except.error.inj h
          have hfails : Fails maxDepth parser fault ([] ++ token :: tokens) [] :=
            Fails.step rfl hstep
          exact ⟨[], hfails, rfl, rfl⟩
      | ok next =>
          simp only [hstep] at h
          obtain ⟨before, hfails, hoffset, hindex⟩ := ih h
          refine ⟨token :: before, hfails.cons hstep, ?_, ?_⟩
          · rw [hoffset, length_sources_cons]
            omega
          · rw [hindex, List.length_cons]
            omega

/-- An error after a walk comes at a later character and at a later token. -/
theorem le_place_of_feed {next : Parser} {before after : List Token} {error : ParseError}
    (walk : start.feed maxDepth before = .ok next)
    (h : parseTokens maxDepth (before ++ after) = .error error) :
    (sources before).length ≤ error.offset ∧ before.length ≤ error.tokenIndex := by
  rw [parseTokens, run_append walk] at h
  obtain ⟨taken, -, hoffset, hindex⟩ := fails_of_run h
  omega

/-- The run of tokens that fail. -/
theorem run_of_fails {parser : Parser} {fault : ParseFault} {tokens before : List Token}
    (h : Fails maxDepth parser fault tokens before) (offset index : Nat) :
    parser.run maxDepth offset index tokens
      = .error { fault, offset := offset + (sources before).length,
                 tokenIndex := index + before.length } := by
  cases h with
  | step walk refused => simp only [run_append walk, run, refused]
  | finish walk unfinished =>
      have hrun := run_append walk offset index []
      rw [List.append_nil] at hrun
      simp only [hrun, run, unfinished]

/-- **Parsing fails exactly where its walk does, and the place is that of the tokens
before.** -/
theorem parseTokens_eq_error_iff {tokens : List Token} {error : ParseError} :
    parseTokens maxDepth tokens = .error error ↔
      ∃ before, Fails maxDepth start error.fault tokens before ∧
        error.offset = (sources before).length ∧ error.tokenIndex = before.length := by
  constructor
  · intro h
    obtain ⟨before, hfails, hoffset, hindex⟩ := fails_of_run h
    exact ⟨before, hfails, by omega, by omega⟩
  · rintro ⟨before, hfails, hoffset, hindex⟩
    obtain ⟨fault, offset, index⟩ := error
    simp only at hfails hoffset hindex
    rw [parseTokens, run_of_fails hfails, hoffset, hindex, Nat.zero_add, Nat.zero_add]

end Parser

end MessageTemplate
