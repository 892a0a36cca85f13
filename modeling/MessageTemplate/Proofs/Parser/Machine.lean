/-
How the parser moves.

Three facts about the machine serve everything that is proved of it.  Writing goes to
the innermost content, whatever else is open above it, so it passes through frames that
are no content (`modifySequence_push`).  What a level of a sequence holds after writing
pieces is what `Piece.assemble` makes of them (`finish_write`).  And a run that ends
well is a walk of steps whose last machine has nothing open (`run_eq_ok_iff`), which
leaves offsets and indices out of the way.
-/
import MessageTemplate.Parser
import MessageTemplate.Proofs.Grammar

namespace MessageTemplate

/-! ### What a level of a sequence holds -/

namespace SequenceBuilder

/-- Adds what one item stands for. -/
def add (builder : SequenceBuilder) : Piece → SequenceBuilder
  | .text text => builder.pushText text
  | .node node => builder.pushNode node

/-- Adds pieces one after the other. -/
def write (builder : SequenceBuilder) (pieces : List Piece) : SequenceBuilder :=
  pieces.foldl add builder

@[simp] theorem write_nil (builder : SequenceBuilder) : builder.write [] = builder := rfl

@[simp] theorem write_cons (builder : SequenceBuilder) (piece : Piece) (pieces : List Piece) :
    builder.write (piece :: pieces) = (builder.add piece).write pieces := rfl

theorem write_snoc (builder : SequenceBuilder) (pieces : List Piece) (piece : Piece) :
    builder.write (pieces ++ [piece]) = (builder.write pieces).add piece := by
  simp [write, List.foldl_append]

@[simp] theorem flush_numberFields (builder : SequenceBuilder) :
    builder.flush.numberFields = builder.numberFields := by
  unfold flush
  split <;> rfl

@[simp] theorem add_numberFields (builder : SequenceBuilder) (piece : Piece) :
    (builder.add piece).numberFields = builder.numberFields := by
  cases piece with
  | text text => rfl
  | node node => exact flush_numberFields builder

@[simp] theorem write_numberFields (builder : SequenceBuilder) (pieces : List Piece) :
    (builder.write pieces).numberFields = builder.numberFields := by
  induction pieces generalizing builder with
  | nil => rfl
  | cons piece pieces ih => rw [write_cons, ih, add_numberFields]

theorem flush_parts (builder : SequenceBuilder) :
    builder.flush.parts.toList = builder.parts.toList ++ Piece.literalPart builder.text := by
  unfold flush Piece.literalPart
  by_cases h : builder.text = ""
  · simp [h]
  · simp [h]

/-- The parts of a level, after writing and flushing. -/
theorem write_parts (builder : SequenceBuilder) (pieces : List Piece) :
    (builder.write pieces).flush.parts.toList
      = builder.parts.toList ++ Piece.partsAfter builder.text pieces := by
  induction pieces generalizing builder with
  | nil => exact flush_parts builder
  | cons piece pieces ih =>
      rw [write_cons, ih]
      cases piece with
      | text text => rfl
      | node node =>
          have htext : (builder.add (.node node)).text = "" := by
            by_cases h : builder.text = ""
            · simp [add, pushNode, flush, h]
            · simp [add, pushNode, flush, h]
          have hparts : (builder.add (.node node)).parts.toList
              = builder.parts.toList ++ Piece.literalPart builder.text ++ [node] := by
            simp only [add, pushNode, Array.toList_push, flush_parts]
          rw [htext, hparts, Piece.partsAfter]
          simp

/-- **A level that pieces were written to finishes as their node.** -/
theorem finish_write (inPlural : Bool) (pieces : List Piece) :
    ((empty inPlural).write pieces).finish = Piece.assemble pieces := by
  rw [finish, write_parts, Piece.assemble_eq_ofParts]
  rfl

/-- What a hash stands for at a level. -/
theorem pushHash_eq (builder : SequenceBuilder) :
    builder.pushHash
      = builder.add (if builder.numberFields then .node .numberField else .text "#") := by
  unfold pushHash
  split <;> rfl

end SequenceBuilder

/-! ### Where writing goes -/

/-- Whether a frame is the content of an option. -/
def Frame.isContent : Frame → Bool
  | .content _ _ => true
  | _ => false

/-- The sequence of the innermost content, if there is a content. -/
def Frame.innermost? : List Frame → Option SequenceBuilder
  | [] => none
  | .content _ sequence :: _ => some sequence
  | .quoted _ :: below => innermost? below
  | .replacement _ :: below => innermost? below

namespace Parser

/-- The sequence that text and nodes are written to. -/
def current (parser : Parser) : SequenceBuilder :=
  (Frame.innermost? parser.stack).getD parser.root

/-- Whether the next token is read as part of a sequence. -/
def InSequence (parser : Parser) : Prop :=
  ∀ frame ∈ parser.stack.head?, frame.isContent = true

@[simp] theorem length_push (parser : Parser) (frame : Frame) :
    (parser.push frame).stack.length = parser.stack.length + 1 := rfl

theorem current_push (parser : Parser) {frame : Frame} (h : frame.isContent = false) :
    (parser.push frame).current = parser.current := by
  cases frame with
  | quoted consumed => rfl
  | replacement stage => rfl
  | content key sequence => simp [Frame.isContent] at h

/-- Writing passes through a frame that is no content. -/
theorem modifySequence_push (parser : Parser) (f : SequenceBuilder → SequenceBuilder)
    {frame : Frame} (h : frame.isContent = false) :
    (parser.push frame).modifySequence f = (parser.modifySequence f).push frame := by
  cases frame with
  | quoted consumed =>
      simp only [modifySequence, push, Frame.modifyInnermost]
      cases Frame.modifyInnermost f parser.stack <;> rfl
  | replacement stage =>
      simp only [modifySequence, push, Frame.modifyInnermost]
      cases Frame.modifyInnermost f parser.stack <;> rfl
  | content key sequence => simp [Frame.isContent] at h

/-- Writing stops at a content. -/
theorem modifySequence_push_content (parser : Parser) (f : SequenceBuilder → SequenceBuilder)
    (key : String) (sequence : SequenceBuilder) :
    (parser.push (.content key sequence)).modifySequence f
      = parser.push (.content key (f sequence)) := rfl

/-- Induction on the frames down to the innermost content, which is where writing goes. -/
theorem stackInduction {motive : Parser → Prop} (root : ∀ sequence, motive ⟨sequence, []⟩)
    (content : ∀ below key sequence, motive (push below (.content key sequence)))
    (through : ∀ below frame, frame.isContent = false → motive below →
      motive (push below frame))
    (parser : Parser) : motive parser := by
  obtain ⟨sequence, stack⟩ := parser
  induction stack with
  | nil => exact root sequence
  | cons frame below ih =>
      cases hframe : frame.isContent with
      | false => exact through ⟨sequence, below⟩ frame hframe ih
      | true =>
          cases frame with
          | content key inner => exact content ⟨sequence, below⟩ key inner
          | _ => simp [Frame.isContent] at hframe

@[simp] theorem length_modifySequence (parser : Parser)
    (f : SequenceBuilder → SequenceBuilder) :
    (parser.modifySequence f).stack.length = parser.stack.length := by
  induction parser using stackInduction with
  | root sequence => rfl
  | content below key sequence => rfl
  | through below frame hframe ih =>
      rw [modifySequence_push _ f hframe, length_push, length_push, ih]

theorem modifySequence_id (parser : Parser) :
    parser.modifySequence (fun builder => builder) = parser := by
  induction parser using stackInduction with
  | root sequence => rfl
  | content below key sequence => rfl
  | through below frame hframe ih => rw [modifySequence_push _ _ hframe, ih]

theorem modifySequence_modifySequence (parser : Parser)
    (f g : SequenceBuilder → SequenceBuilder) :
    (parser.modifySequence f).modifySequence g = parser.modifySequence (g ∘ f) := by
  induction parser using stackInduction with
  | root sequence => rfl
  | content below key sequence => rfl
  | through below frame hframe ih =>
      rw [modifySequence_push _ f hframe, modifySequence_push _ g hframe,
        modifySequence_push _ (g ∘ f) hframe, ih]

/-- What is written depends only on the sequence it is written to. -/
theorem modifySequence_congr (parser : Parser) {f g : SequenceBuilder → SequenceBuilder}
    (h : f parser.current = g parser.current) :
    parser.modifySequence f = parser.modifySequence g := by
  induction parser using stackInduction with
  | root sequence => exact congrArg (fun root => (⟨root, []⟩ : Parser)) h
  | content below key sequence =>
      exact congrArg (fun inner => push below (.content key inner)) h
  | through below frame hframe ih =>
      rw [current_push below hframe] at h
      rw [modifySequence_push _ f hframe, modifySequence_push _ g hframe, ih h]

/-- A hash is written as what it stands for. -/
theorem modifySequence_pushHash (parser : Parser) :
    parser.modifySequence SequenceBuilder.pushHash = parser.modifySequence
      (·.add (if parser.current.numberFields then .node .numberField else .text "#")) :=
  modifySequence_congr parser (SequenceBuilder.pushHash_eq parser.current)

theorem inSequence_root (root : SequenceBuilder) : InSequence ⟨root, []⟩ := by
  simp [InSequence]

theorem inSequence_push_content (parser : Parser) (key : String)
    (sequence : SequenceBuilder) : (parser.push (.content key sequence)).InSequence := by
  simp [InSequence, push, Frame.isContent]

/-- A machine is in a sequence, in quotes or in braces. -/
theorem inSequence_or (parser : Parser) :
    parser.InSequence ∨ (∃ (below : Parser) (consumed : Bool),
        parser = below.push (.quoted consumed)) ∨
      ∃ (below : Parser) (stage : ReplacementStage), parser = below.push (.replacement stage) := by
  obtain ⟨root, stack⟩ := parser
  cases stack with
  | nil => exact Or.inl (inSequence_root root)
  | cons frame below =>
      cases frame with
      | quoted consumed => exact Or.inr (Or.inl ⟨⟨root, below⟩, consumed, rfl⟩)
      | replacement stage => exact Or.inr (Or.inr ⟨⟨root, below⟩, stage, rfl⟩)
      | content key sequence => exact Or.inl (inSequence_push_content ⟨root, below⟩ key sequence)

/-- A machine in a sequence has nothing open, or a content on top. -/
theorem InSequence.cases {parser : Parser} (h : parser.InSequence) :
    (∃ root, parser = ⟨root, []⟩) ∨
      ∃ (below : Parser) (key : String) (sequence : SequenceBuilder),
        parser = below.push (.content key sequence) := by
  obtain ⟨root, stack⟩ := parser
  cases stack with
  | nil => exact Or.inl ⟨root, rfl⟩
  | cons frame below =>
      cases frame with
      | content key sequence => exact Or.inr ⟨⟨root, below⟩, key, sequence, rfl⟩
      | _ => simp [InSequence, Frame.isContent] at h

/-- Writing to a machine in a sequence leaves it there. -/
theorem InSequence.modifySequence {parser : Parser} (h : parser.InSequence)
    (f : SequenceBuilder → SequenceBuilder) : (parser.modifySequence f).InSequence := by
  obtain ⟨root, rfl⟩ | ⟨below, key, sequence, rfl⟩ := h.cases
  · simp [InSequence, Parser.modifySequence, Frame.modifyInnermost]
  · rw [modifySequence_push_content]
    simp [InSequence, push, Frame.isContent]

theorem InSequence.current_modifySequence {parser : Parser} (h : parser.InSequence)
    (f : SequenceBuilder → SequenceBuilder) :
    (parser.modifySequence f).current = f parser.current := by
  obtain ⟨root, rfl⟩ | ⟨below, key, sequence, rfl⟩ := h.cases
  · rfl
  · rfl

/-! ### Steps by the frame on top -/

theorem step_of_inSequence {parser : Parser} (h : parser.InSequence) (maxDepth : Nat)
    (token : Token) : parser.step maxDepth token = parser.stepSequence maxDepth token := by
  obtain ⟨root, rfl⟩ | ⟨below, key, sequence, rfl⟩ := h.cases
  · rfl
  · rfl

theorem step_push_quoted (parser : Parser) (consumed : Bool) (maxDepth : Nat)
    (token : Token) :
    (parser.push (.quoted consumed)).step maxDepth token
      = .ok (parser.stepQuoted consumed token) := rfl

theorem step_push_replacement (parser : Parser) (stage : ReplacementStage) (maxDepth : Nat)
    (token : Token) :
    (parser.push (.replacement stage)).step maxDepth token
      = parser.stepReplacement maxDepth stage token := rfl

theorem openFrame_of_lt {parser : Parser} {maxDepth : Nat}
    (h : parser.stack.length < maxDepth) (frame : Frame) :
    parser.openFrame maxDepth frame = .ok (parser.push frame) := by
  rw [openFrame, if_neg (Nat.not_le.mpr h)]

theorem openFrame_eq_ok {parser next : Parser} {maxDepth : Nat} {frame : Frame}
    (h : parser.openFrame maxDepth frame = .ok next) : next = parser.push frame := by
  unfold openFrame at h
  split at h
  · simp at h
  · simpa using h.symm

/-! ### Walks -/

/-- Feeds tokens to the machine, up to the first fault. -/
def feed (maxDepth : Nat) (parser : Parser) : List Token → Except ParseFault Parser
  | [] => .ok parser
  | token :: rest =>
    match parser.step maxDepth token with
    | .ok next => next.feed maxDepth rest
    | .error fault => .error fault

theorem feed_cons {maxDepth : Nat} {parser next : Parser} {token : Token}
    (h : parser.step maxDepth token = .ok next) (rest : List Token) :
    parser.feed maxDepth (token :: rest) = next.feed maxDepth rest := by
  rw [feed, h]

/-- A walk is a step and then a walk from there. -/
theorem feed_cons_eq_ok_iff {maxDepth : Nat} {parser last : Parser} {token : Token}
    {rest : List Token} :
    parser.feed maxDepth (token :: rest) = .ok last
      ↔ ∃ next, parser.step maxDepth token = .ok next ∧ next.feed maxDepth rest = .ok last := by
  rw [feed]
  cases parser.step maxDepth token <;> simp

/-- **What a step keeps, a walk keeps**; it may speak of the tokens that were fed, too. -/
theorem feed_keeps {maxDepth : Nat} {motive : List Token → Parser → Prop}
    (step_keeps : ∀ {before : List Token} {parser next : Parser} {token : Token},
      motive before parser → parser.step maxDepth token = .ok next →
        motive (before ++ [token]) next)
    (before : List Token) {tokens : List Token} {parser last : Parser}
    (h : motive before parser) (hfeed : parser.feed maxDepth tokens = .ok last) :
    motive (before ++ tokens) last := by
  induction tokens generalizing before parser with
  | nil =>
      obtain rfl : parser = last := by simpa [feed] using hfeed
      rwa [List.append_nil]
  | cons token tokens ih =>
      obtain ⟨next, hstep, hrest⟩ := feed_cons_eq_ok_iff.mp hfeed
      rw [List.append_cons]
      exact ih (before ++ [token]) (step_keeps h hstep) hrest

theorem feed_append {maxDepth : Nat} {parser next : Parser} {tokens : List Token}
    (h : parser.feed maxDepth tokens = .ok next) (rest : List Token) :
    parser.feed maxDepth (tokens ++ rest) = next.feed maxDepth rest := by
  induction tokens generalizing parser with
  | nil =>
      obtain rfl : parser = next := by simpa [feed] using h
      rfl
  | cons token tokens ih =>
      obtain ⟨after, hstep, hrest⟩ := feed_cons_eq_ok_iff.mp h
      rw [List.cons_append, feed_cons hstep, ih hrest]

/-- **A run ends well exactly when its walk does, with nothing left open.** -/
theorem run_eq_ok_iff {maxDepth : Nat} {parser : Parser} {offset index : Nat}
    {tokens : List Token} {node : Node} :
    parser.run maxDepth offset index tokens = .ok node
      ↔ ∃ last, parser.feed maxDepth tokens = .ok last ∧ last.finish = .ok node := by
  induction tokens generalizing parser offset index with
  | nil =>
      cases hfinish : parser.finish with
      | ok tree => simp [run, feed, hfinish]
      | error fault => simp [run, feed, hfinish]
  | cons token rest ih =>
      cases hstep : parser.step maxDepth token with
      | ok next => simp only [run, feed, hstep, ih]
      | error fault => simp [run, feed, hstep]

theorem parseTokens_eq_ok_iff {maxDepth : Nat} {tokens : List Token} {node : Node} :
    parseTokens maxDepth tokens = .ok node
      ↔ ∃ last, start.feed maxDepth tokens = .ok last ∧ last.finish = .ok node :=
  run_eq_ok_iff

/-- A machine that can finish has nothing open. -/
theorem finish_eq_ok_iff {parser : Parser} {node : Node} :
    parser.finish = .ok node ↔ parser.stack = [] ∧ parser.root.finish = node := by
  obtain ⟨root, stack⟩ := parser
  cases stack with
  | nil => simp [finish]
  | cons frame below => cases frame <;> simp [finish]

end Parser

end MessageTemplate
