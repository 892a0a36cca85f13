/-
The limit on depth only cuts off.

Two runs under different limits go in step until one of them is cut off.  Whatever a step
does under a limit, it does under a larger one (`step_of_le`), and faults that are not about
the limit come under every limit.  That a limit cut a run off means that exactly as many
frames were open as it allows, because there are never more.  So under a larger limit the
frame that was refused opens, and the run gets past the token.

The same count of frames bounds the tree that comes out, and with it every recursion over
the tree: rendering and compiling go down one node with each nested call, along a path.
-/
import MessageTemplate.Proofs.Parser.Depth
import MessageTemplate.Proofs.Parser.Failure

namespace MessageTemplate

namespace Parser

variable {limit larger : Nat} {parser next : Parser} {token : Token}

/-! ### Two runs in step -/

/-- What a step does under a limit it does under a larger one. -/
theorem step_of_le (hle : limit ≤ larger) (h : parser.step limit token = .ok next) :
    parser.step larger token = .ok next := by
  rcases parser.step_by_limit token with ⟨result, hresult, -⟩ | ⟨other, hopens⟩
  · rw [hresult, ← hresult limit, h]
  · rw [hopens] at h ⊢
    split at h
    · simp at h
    · rw [if_neg (by omega), h]

theorem feed_of_le (hle : limit ≤ larger) {tokens : List Token}
    (h : parser.feed limit tokens = .ok next) : parser.feed larger tokens = .ok next := by
  induction tokens generalizing parser with
  | nil => exact h
  | cons token tokens ih =>
      obtain ⟨after, hstep, hrest⟩ := feed_cons_eq_ok_iff.mp h
      exact feed_cons_eq_ok_iff.mpr ⟨after, step_of_le hle hstep, ih hrest⟩

theorem Fails.of_le (hle : limit ≤ larger) {fault : ParseFault} {tokens before : List Token}
    (about : AboutTokens fault) (h : Fails limit parser fault tokens before) :
    Fails larger parser fault tokens before := by
  cases h with
  | step walk refused =>
      exact Fails.step (feed_of_le hle walk) (step_eq_error_of_aboutTokens refused about larger)
  | finish walk unfinished => exact Fails.finish (feed_of_le hle walk) unfinished

/-- Where a limit cuts a run off, the walk under a larger limit goes on past the token. -/
theorem Fails.exists_feed {depth : Nat} {tokens before : List Token}
    (h : Fails limit start (.nestingTooDeep depth) tokens before) (hlt : limit < larger) :
    ∃ token after next, tokens = before ++ token :: after ∧
      start.feed larger (before ++ [token]) = .ok next := by
  cases h with
  | @step _ after token last walk refused =>
      obtain ⟨next, hstep⟩ := exists_step_of_nestingTooDeep refused
      have hroom : last.stack.length < larger := Nat.lt_of_le_of_lt (length_stack_le walk) hlt
      refine ⟨token, after, next, rfl, ?_⟩
      rw [feed_append (feed_of_le (Nat.le_of_lt hlt) walk), feed_cons (hstep larger hroom), feed]
  | finish _ unfinished => simpa using finish_fault unfinished

/-- An error after a walk is at a later token. -/
theorem length_le_tokenIndex {tokens after : List Token} {error : ParseError}
    (hwalk : start.feed limit tokens = .ok next)
    (h : parseTokens limit (tokens ++ after) = .error error) :
    tokens.length ≤ error.tokenIndex :=
  (le_place_of_feed hwalk h).2

/-! ### The limit only cuts off -/

/-- What a limit says about a larger one, and about what is parsed under it. -/
structure LimitCutsOff (limit larger : Nat) (tokens : List Token) : Prop where
  /-- A tree stays the same. -/
  kept : ∀ node, parseTokens limit tokens = .ok node → parseTokens larger tokens = .ok node
  /-- An error that is not about the limit stays the same. -/
  settled : ∀ error, parseTokens limit tokens = .error error → AboutTokens error.fault →
    parseTokens larger tokens = .error error
  /-- An error that is about the limit gives way to a tree or to a later error. -/
  later : ∀ error depth, parseTokens limit tokens = .error error →
    error.fault = .nestingTooDeep depth → limit < larger →
      ∀ other, parseTokens larger tokens = .error other → error.tokenIndex < other.tokenIndex
  frames : ∀ before parser, before <+: tokens → start.feed limit before = .ok parser →
    parser.stack.length ≤ limit
  nesting : ∀ node path, parseTokens limit tokens = .ok node → node.Path path →
    path.countP Node.isBranch ≤ limit / 2
  paths : ∀ node path, parseTokens limit tokens = .ok node → node.Path path →
    path.length ≤ limit + 2

/--
**The limit on depth only cuts off, and never changes a result.**

A tree, and an error that is not about the limit, is the same under every larger limit; an
error that is about the limit gives way to a tree or to an error at a later token.  No more
frames are open than the limit allows, and no path of a tree has more than half as many
branches or more than two nodes beyond it.
-/
theorem parseTokens_limitCutsOff (hle : limit ≤ larger) (tokens : List Token) :
    LimitCutsOff limit larger tokens where
  kept := by
    intro node h
    obtain ⟨last, hfeed, hfinish⟩ := parseTokens_eq_ok_iff.mp h
    exact parseTokens_eq_ok_iff.mpr ⟨last, feed_of_le hle hfeed, hfinish⟩
  settled := by
    intro error h about
    obtain ⟨before, hfails, hplace⟩ := parseTokens_eq_error_iff.mp h
    exact parseTokens_eq_error_iff.mpr ⟨before, hfails.of_le hle about, hplace⟩
  later := by
    intro error depth h hdeep hlt other hother
    obtain ⟨before, hfails, -, hindex⟩ := parseTokens_eq_error_iff.mp h
    rw [hdeep] at hfails
    obtain ⟨token, after, next, rfl, hwalk⟩ := hfails.exists_feed hlt
    rw [List.append_cons] at hother
    have hlater := length_le_tokenIndex hwalk hother
    rw [List.length_append, List.length_singleton] at hlater
    omega
  frames := fun _ _ _ hfeed => length_stack_le hfeed
  nesting := fun _ path h hpath => (within_of_parseTokens h path hpath).1
  paths := fun _ path h hpath => (within_of_parseTokens h path hpath).2

/-- A branch in an option of a branch, with a quoted text in it: it takes all of five
frames. -/
theorem parseTokens_limitCutsOff_nested :
    let tokens := lex "\x7ba,select,x\x7b\x7bb,plural,y\x7b'#'\x7d\x7d\x7d\x7d"
    4 ≤ 5 ∧ LimitCutsOff 4 5 tokens ∧
      parseTokens 4 tokens
        = .error { fault := .nestingTooDeep 4, offset := 24, tokenIndex := 14 } ∧
      ∃ node, parseTokens 5 tokens = .ok node :=
  ⟨by decide, parseTokens_limitCutsOff (by decide) _, rfl, _, rfl⟩

end Parser

end MessageTemplate
