/-
Spaces between the braces of a replacement.

Spaces are text in a sequence and in quotes.  Between the braces of a replacement they only
stand between its parts: whatever has been read of it, a run of spaces leaves the machine as
it is (`step_spaces`).

A run does not look at where it is, so from a later place it goes the same way and fails at
the same token, which is later by as much (`run_later`).  Together the two say that spaces in
a replacement move the errors behind them and change nothing else.
-/
import MessageTemplate.Proofs.Parser.Failure

namespace MessageTemplate

/-- The error with more characters and more tokens before it. -/
def ParseError.later (error : ParseError) (characters tokens : Nat) : ParseError :=
  { error with
    offset := error.offset + characters
    tokenIndex := error.tokenIndex + tokens }

namespace Parser

variable {maxDepth : Nat}

/-- Whether the innermost construct that is open is a replacement, and no content of an option
and no quoted run. -/
def InBraces (parser : Parser) : Prop :=
  ∃ stage, parser.stack.head? = some (.replacement stage)

theorem InBraces.exists_below {parser : Parser} (h : parser.InBraces) :
    ∃ (below : Parser) (stage : ReplacementStage), parser = below.push (.replacement stage) := by
  obtain ⟨root, stack⟩ := parser
  obtain ⟨stage, hstage⟩ := h
  obtain ⟨below, rfl⟩ := List.head?_eq_some_iff.mp hstage
  exact ⟨⟨root, below⟩, stage, rfl⟩

/-- **Spaces leave a replacement as it is**, at each of its stages. -/
theorem step_spaces {parser : Parser} (h : parser.InBraces) (run : String) :
    parser.step maxDepth (.spaces run) = .ok parser := by
  obtain ⟨below, stage, rfl⟩ := h.exists_below
  rw [step_push_replacement, stepReplacement]

/-- **A run does not look at where it is.** -/
theorem run_later (parser : Parser) (offset index characters tokens : Nat) (rest : List Token) :
    parser.run maxDepth (offset + characters) (index + tokens) rest
      = (parser.run maxDepth offset index rest).mapError (·.later characters tokens) := by
  induction rest generalizing parser offset index with
  | nil =>
      rw [run, run]
      cases parser.finish with
      | ok node => rfl
      | error fault => rfl
  | cons token rest ih =>
      rw [run, run]
      cases parser.step maxDepth token with
      | ok next =>
          have hoffset : offset + characters + token.length = offset + token.length + characters :=
            Nat.add_right_comm offset characters token.length
          have hindex : index + tokens + 1 = index + 1 + tokens :=
            Nat.add_right_comm index tokens 1
          simp only [hoffset, hindex, ih]
      | error fault => rfl

/--
**Spaces in a replacement do not matter.**

If tokens lead the machine into a replacement, a run of spaces may follow them or not: there is
the same tree, or the same fault.  An error is always behind the spaces, so it comes later by
their characters and by one token.
-/
theorem parseTokens_spaces {before : List Token} {parser : Parser}
    (walk : start.feed maxDepth before = .ok parser) (inBraces : parser.InBraces) (run : String)
    (after : List Token) :
    parseTokens maxDepth (before ++ .spaces run :: after)
        = (parseTokens maxDepth (before ++ after)).mapError (·.later run.length 1) ∧
      ∀ error, parseTokens maxDepth (before ++ after) = .error error →
        (sources before).length ≤ error.offset ∧ before.length ≤ error.tokenIndex := by
  constructor
  · rw [parseTokens, parseTokens, run_append walk, run_append walk, Parser.run,
      step_spaces inBraces]
    exact run_later parser _ _ run.length 1 after
  · intro error herror
    exact le_place_of_feed walk herror

/-- Spaces between a key and its content, in a branch inside an option, before a rest that
parses and before one that does not. -/
theorem parseTokens_spaces_nested :
    let before := lex "\x7ba,select,other\x7b\x7bn,plural,one"
    let after := lex "\x7b# '\x7d'\x7d\x7d\x7d\x7d"
    let wrong := lex "\x7b#\x7d,\x7d\x7d\x7d"
    ∃ parser, start.feed 5 before = .ok parser ∧ parser.InBraces ∧
      lex "\x7ba,select,other\x7b\x7bn,plural,one  \x7b# '\x7d'\x7d\x7d\x7d\x7d"
        = before ++ .spaces "  " :: after ∧
      (∃ node, parseTokens 5 (before ++ after) = .ok node ∧
        parseTokens 5 (before ++ .spaces "  " :: after) = .ok node) ∧
      parseTokens 5 (before ++ wrong)
        = .error { fault := .unexpectedToken .comma .optionKey, offset := 32, tokenIndex := 16 } ∧
      parseTokens 5 (before ++ .spaces "  " :: wrong)
        = .error { fault := .unexpectedToken .comma .optionKey, offset := 34, tokenIndex := 17 } := by
  intro before after wrong
  obtain ⟨parser, hwalk, hin⟩ : ∃ parser, start.feed 5 before = .ok parser ∧ parser.InBraces :=
    ⟨_, rfl, _, rfl⟩
  have hafter := (parseTokens_spaces hwalk hin "  " after).1
  have hwrong := (parseTokens_spaces hwalk hin "  " wrong).1
  obtain ⟨node, hnode⟩ : ∃ node, parseTokens 5 (before ++ after) = .ok node := ⟨_, rfl⟩
  have herror : parseTokens 5 (before ++ wrong)
      = .error { fault := .unexpectedToken .comma .optionKey, offset := 32, tokenIndex := 16 } :=
    rfl
  refine ⟨parser, hwalk, hin, rfl, ⟨node, hnode, ?_⟩, herror, ?_⟩
  · rw [hafter, hnode]
    rfl
  · rw [hwrong, herror]
    rfl

end Parser

end MessageTemplate
