/-
The parser reads only what the grammar derives.

Between two tokens the stack is a derivation that is not finished.  `Progress` says
what has been read of a replacement at each of its stages, and `Reads` puts the frames
together: the tokens so far are the pieces written to the top level, then for each
branch that is open its head, its finished options and the pieces of the content that
is open, and last a replacement without a content or a quoted run.  A step turns a
`Reads` of some tokens into one of these tokens and its own (`step_reads`), so at the
end, with nothing open, what was read is a sequence of the grammar.

Text in quotes is written while the quotes are open.  That is why `Reads.quoted` speaks
of the machine before the opening quote and of the text since.
-/
import MessageTemplate.Proofs.Parser.Complete

namespace MessageTemplate

open Grammar (Sequence Item Options)

theorem operator_of_ofOperator? {word : String} {kind : BranchKind}
    (h : BranchKind.ofOperator? word = some kind) : word = kind.operator := by
  have := List.find?_some h
  exact (beq_iff_eq.mp this).symm

namespace Parser

variable {maxDepth : Nat}

/-! ### What a replacement can do -/

/-- What a token does to a replacement that was taken off the stack, if it is no fault. -/
inductive Moves (parser : Parser) : ReplacementStage → Token → Parser → Prop
  | blank (stage : ReplacementStage) (run : String) :
      Moves parser stage (.spaces run) (parser.push (.replacement stage))
  | name (name : String) :
      Moves parser .variableName (.text name)
        (parser.push (.replacement (.afterVariableName name)))
  | placeholder (name : String) :
      Moves parser (.afterVariableName name) .rightBrace
        (parser.modifySequence (·.pushNode (.placeholder name)))
  | comma (name : String) :
      Moves parser (.afterVariableName name) .comma
        (parser.push (.replacement (.operatorName name)))
  | operator (name : String) (kind : BranchKind) :
      Moves parser (.operatorName name) (.text kind.operator)
        (parser.push (.replacement (.afterOperatorName name kind)))
  | options (name : String) (kind : BranchKind) :
      Moves parser (.afterOperatorName name kind) .comma
        (parser.push (.replacement (.options (Branch.empty name kind) none)))
  | key (branch : Branch Node) (key : String) :
      Moves parser (.options branch none) (.text key)
        (parser.push (.replacement (.options branch (some key))))
  | content (branch : Branch Node) (key : String) :
      Moves parser (.options branch (some key)) .leftBrace
        ((parser.push (.replacement (.options branch none))).push
          (.content key (SequenceBuilder.empty (branch.kind == .plural))))
  | close (branch : Branch Node) (nonempty : branch.options ≠ []) :
      Moves parser (.options branch none) .rightBrace
        (parser.modifySequence (·.pushNode (.branch branch)))

theorem moves_of_stepReplacement {parser next : Parser} {stage : ReplacementStage}
    {token : Token} (h : parser.stepReplacement maxDepth stage token = .ok next) :
    Moves parser stage token next := by
  unfold stepReplacement at h
  split at h
  · obtain rfl := Except.ok.inj h
    exact Moves.blank _ _
  · obtain rfl := Except.ok.inj h
    exact Moves.name _
  · obtain rfl := Except.ok.inj h
    exact Moves.placeholder _
  · obtain rfl := Except.ok.inj h
    exact Moves.comma _
  · split at h
    · obtain rfl := Except.ok.inj h
      rename_i kind hkind
      rw [operator_of_ofOperator? hkind]
      exact Moves.operator _ kind
    · simp at h
  · obtain rfl := Except.ok.inj h
    exact Moves.options _ _
  · obtain rfl := Except.ok.inj h
    exact Moves.key _ _
  · rw [openFrame_eq_ok h]
    exact Moves.content _ _
  · split at h
    · simp at h
    · obtain rfl := Except.ok.inj h
      rename_i hnonempty
      exact Moves.close _ (by simpa using hnonempty)
  · simp at h

/-! ### What was read of a replacement -/

/-- Tokens that follow an opening brace and lead to a stage. -/
inductive Progress : List Token → ReplacementStage → Prop
  | start {blanks : List Token} (blank : Blank blanks) : Progress blanks .variableName
  | name {tokens blanks : List Token} (before : Progress tokens .variableName)
      (name : String) (blank : Blank blanks) :
      Progress (tokens ++ .text name :: blanks) (.afterVariableName name)
  | comma {tokens blanks : List Token} {name : String}
      (before : Progress tokens (.afterVariableName name)) (blank : Blank blanks) :
      Progress (tokens ++ .comma :: blanks) (.operatorName name)
  | operator {tokens blanks : List Token} {name : String}
      (before : Progress tokens (.operatorName name)) (kind : BranchKind)
      (blank : Blank blanks) :
      Progress (tokens ++ .text kind.operator :: blanks) (.afterOperatorName name kind)
  | options {tokens blanks : List Token} {name : String} {kind : BranchKind}
      (before : Progress tokens (.afterOperatorName name kind)) (blank : Blank blanks) :
      Progress (tokens ++ .comma :: blanks) (.options (Branch.empty name kind) none)
  | key {tokens blanks : List Token} {branch : Branch Node}
      (before : Progress tokens (.options branch none)) (key : String)
      (blank : Blank blanks) :
      Progress (tokens ++ .text key :: blanks) (.options branch (some key))
  | content {tokens content blanks : List Token} {branch : Branch Node} {key : String}
      {pieces : List Piece} (before : Progress tokens (.options branch (some key)))
      (sequence : Sequence (branch.kind == .plural) content pieces) (blank : Blank blanks) :
      Progress (tokens ++ .leftBrace :: content ++ .rightBrace :: blanks)
        (.options (branch.insert key (Piece.assemble pieces)) none)

namespace Progress

/-- Spaces are no progress. -/
theorem spaces {tokens : List Token} {stage : ReplacementStage} (h : Progress tokens stage)
    (run : String) : Progress (tokens ++ [.spaces run]) stage := by
  cases h with
  | start blank => exact Progress.start (blank.snoc run)
  | name before name blank =>
      simpa using Progress.name before name (blank.snoc run)
  | comma before blank => simpa using Progress.comma before (blank.snoc run)
  | operator before kind blank =>
      simpa using Progress.operator before kind (blank.snoc run)
  | options before blank => simpa using Progress.options before (blank.snoc run)
  | key before key blank => simpa using Progress.key before key (blank.snoc run)
  | content before sequence blank =>
      simpa using Progress.content before sequence (blank.snoc run)

/-- A name and a closing brace are a placeholder. -/
theorem placeholder {tokens : List Token} {name : String} {inPlural : Bool}
    (h : Progress tokens (.afterVariableName name)) :
    Item inPlural (.leftBrace :: tokens ++ [.rightBrace]) (.node (.placeholder name)) := by
  cases h with
  | name before _ blank₂ =>
      cases before with
      | start blank₁ => exact Item.placeholder blank₁ blank₂ name

/-- Among the options, what was read is the head of a branch and its options. -/
theorem options_split {tokens : List Token} {branch : Branch Node} :
    Progress tokens (.options branch none) →
      ∃ (name : String) (kind : BranchKind) (head written blanks : List Token)
        (options : List (String × Node)),
        Progress head (.afterOperatorName name kind) ∧
        Options (kind == .plural) written options ∧ Blank blanks ∧
        branch = (Branch.empty name kind).insertAll options ∧
        tokens = head ++ .comma :: written ++ blanks
  | .options before blank =>
      ⟨_, _, _, [], _, [], before, Options.nil, blank, rfl, by simp⟩
  | .content (.key before word blank₁) sequence blank₂ => by
      obtain ⟨name, kind, head, written, blanks, options, hhead, hoptions, hblank, rfl, rfl⟩ :=
        options_split before
      rw [insertAll_kind] at sequence
      refine ⟨name, kind, head, _, _, _, hhead,
        hoptions.snoc hblank blank₁ word sequence, blank₂, ?_, ?_⟩
      · rw [insertAll_snoc]
      · simp
termination_by tokens.length
decreasing_by simp

/-- Options and a closing brace are a branch. -/
theorem branch {tokens : List Token} {branch : Branch Node} {inPlural : Bool}
    (h : Progress tokens (.options branch none)) (nonempty : branch.options ≠ []) :
    Item inPlural (.leftBrace :: tokens ++ [.rightBrace]) (.node (.branch branch)) := by
  obtain ⟨name, kind, head, written, blanks, options, hhead, hoptions, hblank, rfl, rfl⟩ :=
    h.options_split
  have hne : options ≠ [] := by
    rintro rfl
    exact nonempty rfl
  cases hhead with
  | operator before _ blank₄ =>
      cases before with
      | comma before blank₃ =>
          cases before with
          | name before _ blank₂ =>
              cases before with
              | start blank₁ =>
                  have hitem : Item inPlural _ _ :=
                    Item.branch blank₁ blank₂ blank₃ blank₄ hblank name kind hne hoptions
                  simpa using hitem

end Progress

/-! ### What was read by the whole machine -/

/-- The tokens that led to a machine, as the frames of its stack divide them. -/
inductive Reads : List Token → Parser → Prop
  /-- Nothing is open. -/
  | root {tokens : List Token} {pieces : List Piece} (sequence : Sequence false tokens pieces) :
      Reads tokens ⟨(SequenceBuilder.empty false).write pieces, []⟩
  /-- The content of an option is open. -/
  | content {tokens head inner : List Token} {below : Parser} {branch : Branch Node}
      {key : String} {pieces : List Piece} (outer : Reads tokens below)
      (inSequence : below.InSequence) (progress : Progress head (.options branch (some key)))
      (sequence : Sequence (branch.kind == .plural) inner pieces) :
      Reads (tokens ++ .leftBrace :: head ++ .leftBrace :: inner)
        ((below.push (.replacement (.options branch none))).push
          (.content key ((SequenceBuilder.empty (branch.kind == .plural)).write pieces)))
  /-- A replacement is open, and no content in it. -/
  | replacement {tokens inner : List Token} {below : Parser} {stage : ReplacementStage}
      (outer : Reads tokens below) (inSequence : below.InSequence)
      (progress : Progress inner stage) :
      Reads (tokens ++ .leftBrace :: inner) (below.push (.replacement stage))
  /-- A quote has just been opened. -/
  | quote {tokens : List Token} {below : Parser} (outer : Reads tokens below)
      (inSequence : below.InSequence) :
      Reads (tokens ++ [.quote]) (below.push (.quoted false))
  /-- Some tokens came after an opening quote. -/
  | quoted {tokens inner : List Token} {below : Parser} (outer : Reads tokens below)
      (inSequence : below.InSequence) (nonempty : inner ≠ [])
      (unquoted : Token.quote ∉ inner) :
      Reads (tokens ++ .quote :: inner)
        ((below.modifySequence (·.pushText (sources inner))).push (.quoted true))

theorem not_inSequence_push (parser : Parser) {frame : Frame} (h : frame.isContent = false) :
    ¬(parser.push frame).InSequence := by
  simp [InSequence, push, h]

namespace Reads

/-- An item that was read in full is written. -/
theorem item {tokens more : List Token} {parser : Parser} {piece : Piece}
    (h : Reads tokens parser) (hin : parser.InSequence)
    (hitem : Item parser.current.numberFields more piece) :
    Reads (tokens ++ more) (parser.modifySequence (·.add piece)) := by
  cases h with
  | root sequence =>
      rw [show (⟨(SequenceBuilder.empty false).write _, []⟩ : Parser).current.numberFields
        = false from SequenceBuilder.write_numberFields _ _] at hitem
      have := Reads.root (sequence.snoc hitem)
      rwa [SequenceBuilder.write_snoc] at this
  | @content _ _ _ below branch key pieces outer inSequence progress sequence =>
      rw [show (Parser.push (below.push (.replacement (.options branch none)))
          (.content key ((SequenceBuilder.empty (branch.kind == .plural)).write pieces))
          ).current.numberFields = (branch.kind == .plural)
        from SequenceBuilder.write_numberFields _ _] at hitem
      have := Reads.content outer inSequence progress (sequence.snoc hitem)
      rw [SequenceBuilder.write_snoc] at this
      rw [modifySequence_push_content]
      simpa using this
  | replacement => exact absurd hin (not_inSequence_push _ rfl)
  | quote => exact absurd hin (not_inSequence_push _ rfl)
  | quoted => exact absurd hin (not_inSequence_push _ rfl)

end Reads

/-! ### One step reads one token -/

variable {tokens : List Token} {parser next : Parser} {token : Token}

/-- A hash that is written was read as what it stands for. -/
theorem reads_hash (h : Reads tokens parser) (hin : parser.InSequence) :
    Reads (tokens ++ [.hash]) (parser.modifySequence SequenceBuilder.pushHash) := by
  rw [modifySequence_pushHash]
  refine h.item hin ?_
  cases hflag : parser.current.numberFields with
  | false => exact Item.hash
  | true => exact Item.numberField

/-- A closing brace in a sequence closes the content on top. -/
theorem reads_closeContent (h : Reads tokens parser) (hin : parser.InSequence)
    (hstep : parser.closeContent = .ok next) : Reads (tokens ++ [.rightBrace]) next := by
  cases h with
  | root sequence => simp [closeContent] at hstep
  | content outer inSequence progress sequence =>
      have hclosed := Reads.replacement outer inSequence
        (progress.content sequence Blank.nil)
      rw [← SequenceBuilder.finish_write] at hclosed
      obtain rfl := Except.ok.inj hstep
      simpa [push] using hclosed
  | replacement => exact absurd hin (not_inSequence_push _ rfl)
  | quote => exact absurd hin (not_inSequence_push _ rfl)
  | quoted => exact absurd hin (not_inSequence_push _ rfl)

theorem reads_stepSequence (h : Reads tokens parser) (hin : parser.InSequence)
    (hstep : parser.stepSequence maxDepth token = .ok next) :
    Reads (tokens ++ [token]) next := by
  cases token with
  | leftBrace =>
      rw [openFrame_eq_ok hstep]
      exact Reads.replacement h hin (Progress.start Blank.nil)
  | rightBrace => exact reads_closeContent h hin hstep
  | comma =>
      obtain rfl := Except.ok.inj hstep
      exact h.item hin Item.comma
  | hash =>
      obtain rfl := Except.ok.inj hstep
      exact reads_hash h hin
  | quote =>
      rw [openFrame_eq_ok hstep]
      exact Reads.quote h hin
  | spaces run =>
      obtain rfl := Except.ok.inj hstep
      exact h.item hin (Item.spaces run)
  | text run =>
      obtain rfl := Except.ok.inj hstep
      exact h.item hin (Item.text run)

theorem reads_moves {inner : List Token} {stage : ReplacementStage} (h : Reads tokens parser)
    (hin : parser.InSequence) (progress : Progress inner stage)
    (moves : Moves parser stage token next) :
    Reads (tokens ++ .leftBrace :: inner ++ [token]) next := by
  cases moves with
  | blank _ run => simpa using Reads.replacement h hin (progress.spaces run)
  | name name => simpa using Reads.replacement h hin (progress.name name Blank.nil)
  | placeholder name =>
      simpa [SequenceBuilder.add] using h.item hin progress.placeholder
  | comma name => simpa using Reads.replacement h hin (progress.comma Blank.nil)
  | operator name kind =>
      simpa using Reads.replacement h hin (progress.operator kind Blank.nil)
  | options name kind => simpa using Reads.replacement h hin (progress.options Blank.nil)
  | key branch key => simpa using Reads.replacement h hin (progress.key key Blank.nil)
  | content branch key => simpa using Reads.content h hin progress Sequence.nil
  | close branch nonempty =>
      simpa [SequenceBuilder.add] using h.item hin (progress.branch nonempty)

/-- **A step reads its token.** -/
theorem step_reads (h : Reads tokens parser) (hstep : parser.step maxDepth token = .ok next) :
    Reads (tokens ++ [token]) next := by
  cases h with
  | @root _ pieces sequence =>
      have hin := inSequence_root ((SequenceBuilder.empty false).write pieces)
      rw [step_of_inSequence hin] at hstep
      exact reads_stepSequence (Reads.root sequence) hin hstep
  | content outer inSequence progress sequence =>
      rw [step_of_inSequence (inSequence_push_content _ _ _)] at hstep
      exact reads_stepSequence (Reads.content outer inSequence progress sequence)
        (inSequence_push_content _ _ _) hstep
  | replacement outer inSequence progress =>
      rw [step_push_replacement] at hstep
      exact reads_moves outer inSequence progress (moves_of_stepReplacement hstep)
  | quote outer inSequence =>
      rw [step_push_quoted] at hstep
      obtain rfl := Except.ok.inj hstep
      by_cases hquote : token = .quote
      · subst hquote
        simpa [SequenceBuilder.add, stepQuoted, Token.source] using
          outer.item inSequence Item.doubledQuote
      · rw [stepQuoted_of_ne hquote]
        have hreads : Reads (_ ++ .quote :: [token]) _ :=
          Reads.quoted outer inSequence (by simp) (by simpa using fun h => hquote h.symm)
        simpa [sources] using hreads
  | @quoted _ inner below outer inSequence nonempty unquoted =>
      rw [step_push_quoted] at hstep
      obtain rfl := Except.ok.inj hstep
      by_cases hquote : token = .quote
      · subst hquote
        simpa [SequenceBuilder.add, stepQuoted] using
          outer.item inSequence (Item.quoted nonempty unquoted)
      · rw [stepQuoted_of_ne hquote, modifySequence_modifySequence]
        have hreads : Reads (_ ++ .quote :: (inner ++ [token])) _ :=
          Reads.quoted outer inSequence (by simp)
            (by simpa [unquoted] using fun h => hquote h.symm)
        simpa [Function.comp_def, pushText_pushText, sources_append, sources] using hreads

/-- A walk reads all its tokens. -/
theorem feed_reads {more : List Token} (h : Reads tokens parser)
    (hfeed : parser.feed maxDepth more = .ok next) : Reads (tokens ++ more) next :=
  feed_keeps step_reads tokens h hfeed

/-- **Tokens that are parsed to a node derive it.** -/
theorem template_of_parseTokens {node : Node} (h : parseTokens maxDepth tokens = .ok node) :
    Grammar.Template tokens node := by
  obtain ⟨last, hfeed, hfinish⟩ := parseTokens_eq_ok_iff.mp h
  obtain ⟨hstack, hroot⟩ := finish_eq_ok_iff.mp hfinish
  have hreads := feed_reads (Reads.root Sequence.nil) hfeed
  rw [List.nil_append] at hreads
  cases hreads with
  | @root _ pieces sequence =>
      exact ⟨pieces, sequence, by rw [← hroot, SequenceBuilder.finish_write]⟩
  | _ => simp [push] at hstack

/--
**The parser accepts exactly its grammar.**

Some limit on depth lets the parser read tokens as a node if and only if the tokens
derive that node.
-/
theorem exists_parseTokens_iff (tokens : List Token) (node : Node) :
    (∃ maxDepth, parseTokens maxDepth tokens = .ok node) ↔ Grammar.Template tokens node :=
  ⟨fun ⟨_, h⟩ => template_of_parseTokens h,
    fun h => ⟨tokens.length, parseTokens_of_template h (Nat.le_refl _)⟩⟩

end Parser

end MessageTemplate
