/-
What can be open, and what can be wrong.

A content opens on the replacement that waits for it, and nothing else opens there until
it is closed.  So the stack consists of pairs, a content on the replacement of its branch
(`OpenContents`), and at most one frame more, which is no content: a replacement or a
quoted run (`Stacked`).  The level of a content has number fields exactly if its branch
is a plural.  This holds before the first token, and a step keeps it whatever frame is on
top (`Stacked.step`), so it holds between any two tokens of a run (`Stacked.feed`).

The shape decides which faults there are.  A content can always be closed, so a closing
brace is unmatched only if nothing is open, and only inside braces is there a token that
is not expected.
-/
import MessageTemplate.Proofs.Parser.Sound
import MessageTemplate.Proofs.Place

namespace MessageTemplate

/-- A replacement never waits for text or for quoted text. -/
theorem ReplacementStage.state_ne (stage : ReplacementStage) :
    stage.state ≠ .text ∧ stage.state ≠ .quotedText := by
  cases stage with
  | options branch pendingKey => cases pendingKey <;> simp [state]
  | _ => simp [state]

namespace Parser

/-! ### The shape of the stack -/

/-- Contents that are open, each on the replacement of its branch. -/
inductive OpenContents : List Frame → Prop
  | nil : OpenContents []
  | content {below : List Frame} (branch : Branch Node) (key : String)
      {sequence : SequenceBuilder}
      (numbers : sequence.numberFields = true ↔ branch.kind = .plural)
      (outer : OpenContents below) :
      OpenContents (.content key sequence :: .replacement (.options branch none) :: below)

/-- Contents that are open, and on them at most one replacement or one quoted run. -/
inductive Stacked : List Frame → Prop
  | contents {stack : List Frame} (outer : OpenContents stack) : Stacked stack
  | replacement {below : List Frame} (stage : ReplacementStage) (outer : OpenContents below) :
      Stacked (.replacement stage :: below)
  | quoted {below : List Frame} (consumed : Bool) (outer : OpenContents below) :
      Stacked (.quoted consumed :: below)

variable {maxDepth : Nat} {parser next : Parser} {token : Token}

theorem OpenContents.inSequence (h : OpenContents parser.stack) : parser.InSequence := by
  obtain ⟨root, stack⟩ := parser
  cases h with
  | nil => exact inSequence_root root
  | content branch key _ _ => exact inSequence_push_content ⟨root, _⟩ key _

/-- Writing changes what a level holds, and nothing about the frames. -/
theorem OpenContents.write (h : OpenContents parser.stack) (piece : Piece) :
    OpenContents (parser.modifySequence (·.add piece)).stack := by
  obtain ⟨root, stack⟩ := parser
  cases h with
  | nil => exact OpenContents.nil
  | content branch key numbers outer =>
      refine OpenContents.content branch key ?_ outer
      rwa [SequenceBuilder.add_numberFields]

theorem OpenContents.writeText (h : OpenContents parser.stack) (text : String) :
    OpenContents (parser.modifySequence (·.pushText text)).stack :=
  h.write (.text text)

theorem OpenContents.writeNode (h : OpenContents parser.stack) (node : Node) :
    OpenContents (parser.modifySequence (·.pushNode node)).stack :=
  h.write (.node node)

/-! ### A step keeps the shape -/

/-- **The content on top can be closed**: below it is the branch that it belongs to. -/
theorem OpenContents.closeContent (h : OpenContents parser.stack) {key : String}
    {sequence : SequenceBuilder} {below : List Frame}
    (htop : parser.stack = .content key sequence :: below) :
    ∃ (branch : Branch Node) (under : List Frame),
      below = .replacement (.options branch none) :: under ∧ OpenContents under ∧
      parser.closeContent = .ok { parser with
        stack := .replacement (.options (branch.insert key sequence.finish) none) :: under } := by
  rw [htop] at h
  cases h with
  | content branch _ _ outer =>
      refine ⟨branch, _, rfl, outer, ?_⟩
      rw [Parser.closeContent, htop]

theorem OpenContents.stepSequence (h : OpenContents parser.stack)
    (hstep : parser.stepSequence maxDepth token = .ok next) : Stacked next.stack := by
  cases token with
  | leftBrace =>
      rw [openFrame_eq_ok hstep]
      exact Stacked.replacement .variableName h
  | quote =>
      rw [openFrame_eq_ok hstep]
      exact Stacked.quoted false h
  | rightBrace =>
      obtain ⟨root, rfl⟩ | ⟨below, key, sequence, rfl⟩ := h.inSequence.cases
      · simp [Parser.stepSequence, Parser.closeContent] at hstep
      · obtain ⟨branch, under, -, outer, hclosed⟩ := h.closeContent rfl
        rw [Parser.stepSequence, hclosed] at hstep
        obtain rfl := Except.ok.inj hstep
        exact Stacked.replacement _ outer
  | hash =>
      obtain rfl := Except.ok.inj hstep
      rw [modifySequence_pushHash]
      exact Stacked.contents (h.write _)
  | comma =>
      obtain rfl := Except.ok.inj hstep
      exact Stacked.contents (h.writeText _)
  | spaces run =>
      obtain rfl := Except.ok.inj hstep
      exact Stacked.contents (h.writeText _)
  | text run =>
      obtain rfl := Except.ok.inj hstep
      exact Stacked.contents (h.writeText _)

theorem OpenContents.stepQuoted (h : OpenContents parser.stack) (consumed : Bool)
    (token : Token) : Stacked (parser.stepQuoted consumed token).stack := by
  by_cases hquote : token = .quote
  · subst hquote
    cases consumed with
    | true => exact Stacked.contents h
    | false => exact Stacked.contents (h.writeText _)
  · rw [stepQuoted_of_ne hquote]
    exact Stacked.quoted true (h.writeText _)

theorem OpenContents.stepReplacement (h : OpenContents parser.stack) {stage : ReplacementStage}
    (hstep : parser.stepReplacement maxDepth stage token = .ok next) : Stacked next.stack := by
  cases moves_of_stepReplacement hstep with
  | blank => exact Stacked.replacement _ h
  | name => exact Stacked.replacement _ h
  | comma => exact Stacked.replacement _ h
  | operator => exact Stacked.replacement _ h
  | options => exact Stacked.replacement _ h
  | key => exact Stacked.replacement _ h
  | placeholder name => exact Stacked.contents (h.writeNode _)
  | close branch nonempty => exact Stacked.contents (h.writeNode _)
  | content branch key =>
      have hnumbers : (branch.kind == .plural) = true ↔ branch.kind = .plural := beq_iff_eq
      exact Stacked.contents (OpenContents.content branch key hnumbers h)

/-- **A step keeps the shape of the stack.** -/
theorem Stacked.step (h : Stacked parser.stack)
    (hstep : parser.step maxDepth token = .ok next) : Stacked next.stack := by
  obtain ⟨root, stack⟩ := parser
  cases h with
  | contents outer =>
      rw [step_of_inSequence outer.inSequence] at hstep
      exact outer.stepSequence hstep
  | @replacement below stage outer =>
      have hbelow : OpenContents (Parser.mk root below).stack := outer
      exact hbelow.stepReplacement hstep
  | @quoted below consumed outer =>
      have hbelow : OpenContents (Parser.mk root below).stack := outer
      obtain rfl := Except.ok.inj hstep
      exact hbelow.stepQuoted consumed token

/-- **So does a run.** -/
theorem Stacked.feed {tokens : List Token} (h : Stacked parser.stack)
    (hfeed : parser.feed maxDepth tokens = .ok next) : Stacked next.stack :=
  feed_keeps (motive := fun _ parser => Stacked parser.stack) Stacked.step [] h hfeed

theorem stacked_start : Stacked start.stack :=
  Stacked.contents OpenContents.nil

/-! ### Where writing goes -/

/-- Writing passes through frames that are no contents. -/
theorem modifySequence_above (root : SequenceBuilder) {above : List Frame}
    (habove : ∀ frame ∈ above, frame.isContent = false) (stack : List Frame)
    (f : SequenceBuilder → SequenceBuilder) :
    (Parser.mk root (above ++ stack)).modifySequence f =
      { root := ((Parser.mk root stack).modifySequence f).root,
        stack := above ++ ((Parser.mk root stack).modifySequence f).stack } := by
  induction above with
  | nil => rfl
  | cons frame above ih =>
      obtain ⟨hframe, habove⟩ := List.forall_mem_cons.mp habove
      have hpush := modifySequence_push ⟨root, above ++ stack⟩ f hframe
      rw [ih habove] at hpush
      exact hpush

/-- Writing goes to the innermost content, or to the top level if there is none. -/
structure WritesInnermost (parser : Parser) : Prop where
  content : ∀ above key sequence below, parser.stack = above ++ .content key sequence :: below →
    (∀ frame ∈ above, frame.isContent = false) → ∀ f,
      parser.modifySequence f
        = { parser with stack := above ++ .content key (f sequence) :: below }
  root : (∀ frame ∈ parser.stack, frame.isContent = false) → ∀ f,
    parser.modifySequence f = { parser with root := f parser.root }

theorem writesInnermost (parser : Parser) : parser.WritesInnermost := by
  obtain ⟨root, stack⟩ := parser
  refine ⟨?_, ?_⟩
  · rintro above key sequence below rfl habove f
    exact modifySequence_above root habove (.content key sequence :: below) f
  · intro hstack f
    have hwrite := modifySequence_above root hstack [] f
    rw [List.append_nil] at hwrite
    rw [hwrite]
    simp [modifySequence, Frame.modifyInnermost]

/-! ### What can be wrong with a token -/

/-- A token that is not expected stands inside braces. -/
theorem step_unexpected_state {other : Token} {state : ParserState}
    (h : parser.step maxDepth token = .error (.unexpectedToken other state)) :
    state ≠ .text ∧ state ≠ .quotedText := by
  unfold step at h
  split at h
  · simp at h
  · rw [(stepReplacement_unexpected h).2]
    exact ReplacementStage.state_ne _
  · exact absurd h stepSequence_expected

/-- **A closing brace is unmatched exactly if nothing is open.** -/
theorem Stacked.step_unmatched_iff (h : Stacked parser.stack) :
    parser.step maxDepth token = .error .unmatchedClosingBrace ↔
      token = .rightBrace ∧ parser.stack = [] := by
  obtain ⟨root, stack⟩ := parser
  constructor
  · intro hstep
    cases h with
    | contents outer =>
        rw [step_of_inSequence outer.inSequence] at hstep
        cases token with
        | leftBrace => simpa using openFrame_error hstep
        | quote => simpa using openFrame_error hstep
        | rightBrace =>
            refine ⟨rfl, ?_⟩
            cases outer with
            | nil => rfl
            | content branch key numbers outer => simp [stepSequence, closeContent] at hstep
        | _ => simp [stepSequence] at hstep
    | replacement stage outer =>
        obtain ⟨_, hfault⟩ | ⟨_, hfault⟩ | hfault | hfault := stepReplacement_fault hstep
        · simp at hfault
        · simp at hfault
        · simp at hfault
        · simp at hfault
    | quoted consumed outer => simp [Parser.step] at hstep
  · rintro ⟨rfl, hstack⟩
    obtain rfl : stack = [] := hstack
    rfl

/-! ### Every run -/

/-- **A machine whose stack has the shape**, and what follows for its next step. -/
structure IsStacked (maxDepth : Nat) (parser : Parser) : Prop where
  frames : Stacked parser.stack
  writes : parser.WritesInnermost
  /-- A content can be closed, as the branch that waits for it is right below. -/
  closes : ∀ key sequence below, parser.stack = .content key sequence :: below →
    ∃ (branch : Branch Node) (under : List Frame),
      below = .replacement (.options branch none) :: under ∧
      parser.closeContent = .ok { parser with
        stack := .replacement (.options (branch.insert key sequence.finish) none) :: under }
  unmatched : ∀ token, parser.step maxDepth token = .error .unmatchedClosingBrace ↔
    token = .rightBrace ∧ parser.stack = []
  unexpected : ∀ token other state,
    parser.step maxDepth token = .error (.unexpectedToken other state) →
      state ≠ .text ∧ state ≠ .quotedText

theorem Stacked.isStacked (h : Stacked parser.stack) : parser.IsStacked maxDepth where
  frames := h
  writes := parser.writesInnermost
  closes := by
    intro key sequence below htop
    have houter : OpenContents parser.stack := by
      rw [htop] at h ⊢
      cases h with
      | contents outer => exact outer
    obtain ⟨branch, under, hbelow, -, hclosed⟩ := houter.closeContent htop
    exact ⟨branch, under, hbelow, hclosed⟩
  unmatched := fun _ => h.step_unmatched_iff
  unexpected := fun _ _ _ hstep => step_unexpected_state hstep

/--
**The stack is a sequence of contents on their branches, with one frame more at most.**

Whatever the tokens and the limit, the machine has such a stack after every step, and it writes
to the innermost content or to the top level.  Hence a content that is to be closed always
stands on its branch; a closing brace is unmatched exactly if it comes when nothing is open; and
no token is reported as unexpected in text or in quotes.
-/
theorem stack_isPaired (maxDepth : Nat) (tokens : List Token) :
    (∀ parser, start.feed maxDepth tokens = .ok parser → parser.IsStacked maxDepth) ∧
    ((∃ error, parseTokens maxDepth tokens = .error error ∧
        error.fault = .unmatchedClosingBrace) ↔
      ∃ before after parser, tokens = before ++ .rightBrace :: after ∧
        start.feed maxDepth before = .ok parser ∧ parser.stack = []) ∧
    ∀ error other state, parseTokens maxDepth tokens = .error error →
      error.fault = .unexpectedToken other state → state ≠ .text ∧ state ≠ .quotedText := by
  refine ⟨fun parser hfeed => (stacked_start.feed hfeed).isStacked, ⟨?_, ?_⟩, ?_⟩
  · rintro ⟨error, herror, hfault⟩
    obtain ⟨taken, hfails, -, -⟩ := parseTokens_eq_error_iff.mp herror
    rw [hfault] at hfails
    cases hfails with
    | @step before after token last walk refused =>
        obtain ⟨rfl, hstack⟩ := (stacked_start.feed walk).step_unmatched_iff.mp refused
        exact ⟨taken, after, last, rfl, walk, hstack⟩
    | finish walk unfinished => simpa using finish_fault unfinished
  · rintro ⟨before, after, parser, rfl, walk, hstack⟩
    have refused : parser.step maxDepth .rightBrace = .error .unmatchedClosingBrace :=
      (stacked_start.feed walk).step_unmatched_iff.mpr ⟨rfl, hstack⟩
    exact ⟨_, run_of_fails (Fails.step walk refused) 0 0, rfl⟩
  · intro error other state herror hfault
    obtain ⟨taken, hfails, -, -⟩ := parseTokens_eq_error_iff.mp herror
    rw [hfault] at hfails
    cases hfails with
    | step walk refused => exact step_unexpected_state refused
    | finish walk unfinished => simpa using finish_fault unfinished

/-- Quotes in an option of a plural in an option, and a comma in the place of a key there. -/
theorem stack_isPaired_nested :
    let tokens := lex "\x7ba,select,x\x7b\x7bn,plural,one\x7b'q"
    let wrong := lex "\x7ba,select,x\x7b\x7bn,plural,,"
    let error : ParseError :=
      { fault := .unexpectedToken .comma .optionKey, offset := 22, tokenIndex := 12 }
    (∃ parser, start.feed 5 tokens = .ok parser ∧ parser.stack.length = 5 ∧
      parser.IsStacked 5) ∧
      parseTokens 5 wrong = .error error ∧
      ParserState.optionKey ≠ .text ∧ ParserState.optionKey ≠ .quotedText := by
  intro tokens wrong error
  have herror : parseTokens 5 wrong = .error error := rfl
  exact ⟨⟨_, rfl, rfl, (stack_isPaired 5 tokens).1 _ rfl⟩, herror,
    (stack_isPaired 5 wrong).2.2 error .comma .optionKey herror rfl⟩

end Parser

end MessageTemplate
