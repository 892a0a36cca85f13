/-
What stands at the top level does not matter.

A step looks at its token and at the frames that are open.  To the top level it only adds
pieces.  So from two machines with the same frames, the same tokens lead to the same fault,
or they add the same pieces to both top levels and leave the same frames (`feed_alike`).

A template is read from an empty top level.  What is said here lets it be read after another
one: with the same faults, and with its own pieces behind those of the other.
-/
import MessageTemplate.Proofs.NormalForm
import MessageTemplate.Proofs.Parser.Failure

namespace MessageTemplate

theorem SequenceBuilder.write_append (builder : SequenceBuilder) (pieces more : List Piece) :
    builder.write (pieces ++ more) = (builder.write pieces).write more :=
  List.foldl_append

/-- A text, or a node that neither meets a literal nor is taken for parts. -/
def Piece.StaysApart : Piece → Prop
  | .text _ => True
  | .node part => part.isSequence = false ∧ part.isLiteral = false

namespace Parser

variable {maxDepth : Nat}

/-- The same fault, or machines with the same frames and the same pieces added to two top
levels. -/
inductive Alike (root other : SequenceBuilder) :
    Except ParseFault Parser → Except ParseFault Parser → Prop
  | error (fault : ParseFault) : Alike root other (.error fault) (.error fault)
  | ok {pieces : List Piece} (apart : ∀ piece ∈ pieces, piece.StaysApart)
      (frames : List Frame) :
      Alike root other (.ok ⟨root.write pieces, frames⟩) (.ok ⟨other.write pieces, frames⟩)

variable {root other : SequenceBuilder}

namespace Alike

theorem frames (frames : List Frame) :
    Alike root other (.ok ⟨root, frames⟩) (.ok ⟨other, frames⟩) :=
  Alike.ok (List.forall_mem_nil _) frames

theorem push {first second : Parser} (h : Alike root other (.ok first) (.ok second))
    (frame : Frame) : Alike root other (.ok (first.push frame)) (.ok (second.push frame)) := by
  cases h with
  | ok apart frames => exact Alike.ok apart (frame :: frames)

theorem of_write {pieces : List Piece} (apart : ∀ piece ∈ pieces, piece.StaysApart)
    {first second : Except ParseFault Parser}
    (h : Alike (root.write pieces) (other.write pieces) first second) :
    Alike root other first second := by
  cases h with
  | error fault => exact Alike.error fault
  | ok more frames =>
      rw [← SequenceBuilder.write_append, ← SequenceBuilder.write_append]
      exact Alike.ok (List.forall_mem_append.mpr ⟨apart, more⟩) frames

/-- Writing adds one piece to both top levels, or changes a frame. -/
theorem write (stack : List Frame) {f : SequenceBuilder → SequenceBuilder} {piece : Piece}
    (apart : piece.StaysApart) (hroot : f root = root.add piece)
    (hother : f other = other.add piece) :
    Alike root other (.ok (modifySequence ⟨root, stack⟩ f))
      (.ok (modifySequence ⟨other, stack⟩ f)) := by
  unfold modifySequence
  cases Frame.modifyInnermost f stack with
  | none =>
      simp only [hroot, hother]
      exact Alike.ok (List.forall_mem_singleton.mpr apart) stack
  | some frames => exact Alike.frames frames

theorem write_text (stack : List Frame) (text : String) :
    Alike root other (.ok (modifySequence ⟨root, stack⟩ (·.pushText text)))
      (.ok (modifySequence ⟨other, stack⟩ (·.pushText text))) :=
  have apart : Piece.StaysApart (.text text) := trivial
  Alike.write stack apart rfl rfl

theorem write_node (stack : List Frame) {node : Node}
    (apart : node.isSequence = false ∧ node.isLiteral = false) :
    Alike root other (.ok (modifySequence ⟨root, stack⟩ (·.pushNode node)))
      (.ok (modifySequence ⟨other, stack⟩ (·.pushNode node))) :=
  have apart : Piece.StaysApart (.node node) := apart
  Alike.write stack apart rfl rfl

theorem openFrame (stack : List Frame) (frame : Frame) :
    Alike root other (Parser.openFrame maxDepth ⟨root, stack⟩ frame)
      (Parser.openFrame maxDepth ⟨other, stack⟩ frame) := by
  unfold Parser.openFrame
  by_cases h : maxDepth ≤ stack.length
  · simp only [if_pos h]
    exact Alike.error _
  · simp only [if_neg h]
    exact Alike.frames (frame :: stack)

theorem closeContent (stack : List Frame) :
    Alike root other (Parser.closeContent ⟨root, stack⟩)
      (Parser.closeContent ⟨other, stack⟩) := by
  unfold Parser.closeContent
  dsimp only
  split
  · exact Alike.frames _
  · exact Alike.error _

theorem stepQuoted (stack : List Frame) (consumed : Bool) (token : Token) :
    Alike root other (.ok (Parser.stepQuoted ⟨root, stack⟩ consumed token))
      (.ok (Parser.stepQuoted ⟨other, stack⟩ consumed token)) := by
  have hwrite : Alike root other (.ok (modifySequence ⟨root, stack⟩ (·.pushText token.source)))
      (.ok (modifySequence ⟨other, stack⟩ (·.pushText token.source))) :=
    write_text stack token.source
  by_cases hquote : token = .quote
  · subst hquote
    cases consumed with
    | true => exact Alike.frames stack
    | false => exact hwrite
  · rw [stepQuoted_of_ne hquote, stepQuoted_of_ne hquote]
    exact hwrite.push _

theorem stepReplacement (stack : List Frame) (stage : ReplacementStage) (token : Token) :
    Alike root other (Parser.stepReplacement maxDepth ⟨root, stack⟩ stage token)
      (Parser.stepReplacement maxDepth ⟨other, stack⟩ stage token) := by
  unfold Parser.stepReplacement
  split
  case h_3 name => exact write_node stack ⟨rfl, rfl⟩
  case h_5 =>
      split
      · exact (Alike.frames stack).push _
      · exact Alike.error _
  case h_8 branch key =>
      exact Alike.openFrame (.replacement (.options branch none) :: stack) _
  case h_9 branch =>
      split
      · exact Alike.error _
      · exact write_node stack ⟨rfl, rfl⟩
  case h_10 => exact Alike.error _
  all_goals exact (Alike.frames stack).push _

/-- Neither top level makes a number field of a hash. -/
theorem stepSequence (hroot : root.numberFields = false) (hother : other.numberFields = false)
    (stack : List Frame) (token : Token) :
    Alike root other (Parser.stepSequence maxDepth ⟨root, stack⟩ token)
      (Parser.stepSequence maxDepth ⟨other, stack⟩ token) := by
  cases token with
  | leftBrace => exact Alike.openFrame stack _
  | quote => exact Alike.openFrame stack _
  | rightBrace => exact Alike.closeContent stack
  | hash =>
      have apart : Piece.StaysApart (.text "#") := trivial
      refine Alike.write stack apart ?_ ?_
      · rw [SequenceBuilder.pushHash_eq, hroot, if_neg (by simp)]
      · rw [SequenceBuilder.pushHash_eq, hother, if_neg (by simp)]
  | comma => exact write_text stack _
  | spaces run => exact write_text stack run
  | text run => exact write_text stack run

end Alike

/-- **A step does the same to all top levels.** -/
theorem step_alike (hroot : root.numberFields = false) (hother : other.numberFields = false)
    (stack : List Frame) (token : Token) :
    Alike root other (step maxDepth ⟨root, stack⟩ token) (step maxDepth ⟨other, stack⟩ token) := by
  unfold step
  dsimp only
  split
  · exact Alike.stepQuoted _ _ _
  · exact Alike.stepReplacement _ _ _
  · exact Alike.stepSequence hroot hother stack token

theorem feed_alike (hroot : root.numberFields = false) (hother : other.numberFields = false)
    (stack : List Frame) (tokens : List Token) :
    Alike root other (feed maxDepth ⟨root, stack⟩ tokens)
      (feed maxDepth ⟨other, stack⟩ tokens) := by
  induction tokens generalizing root other stack with
  | nil => exact Alike.frames stack
  | cons token tokens ih =>
      have hstep : Alike root other (step maxDepth ⟨root, stack⟩ token)
          (step maxDepth ⟨other, stack⟩ token) := step_alike hroot hother stack token
      rw [feed, feed]
      generalize step maxDepth ⟨root, stack⟩ token = first at hstep ⊢
      generalize step maxDepth ⟨other, stack⟩ token = second at hstep ⊢
      cases hstep with
      | error fault => exact Alike.error fault
      | ok apart frames =>
          refine Alike.of_write apart (ih ?_ ?_ frames)
          · rw [SequenceBuilder.write_numberFields, hroot]
          · rw [SequenceBuilder.write_numberFields, hother]

/-! ### A template behind another -/

/-- **Behind something else a template adds its own pieces**, which are those of its tree. -/
theorem exists_pieces {tokens : List Token} {node : Node}
    (h : parseTokens maxDepth tokens = .ok node) (root : SequenceBuilder)
    (hroot : root.numberFields = false) :
    ∃ pieces, (∀ piece ∈ pieces, piece.StaysApart) ∧ node = Piece.assemble pieces ∧
      feed maxDepth ⟨root, []⟩ tokens = .ok ⟨root.write pieces, []⟩ := by
  obtain ⟨last, hwalk, hfinish⟩ := parseTokens_eq_ok_iff.mp h
  obtain ⟨hstack, hnode⟩ := finish_eq_ok_iff.mp hfinish
  have halike : Alike (SequenceBuilder.empty false) root (start.feed maxDepth tokens)
      (feed maxDepth ⟨root, []⟩ tokens) := feed_alike rfl hroot [] tokens
  rw [hwalk] at halike
  generalize feed maxDepth ⟨root, []⟩ tokens = result at halike ⊢
  cases halike with
  | @ok pieces apart frames =>
      obtain rfl : frames = [] := hstack
      exact ⟨pieces, apart, by rw [← hnode, SequenceBuilder.finish_write], rfl⟩

/-- **Behind something else tokens fail just as they do alone.** -/
theorem fails_behind {fault : ParseFault} {tokens before : List Token}
    (h : Fails maxDepth start fault tokens before) (hroot : root.numberFields = false) :
    Fails maxDepth ⟨root, []⟩ fault tokens before := by
  have halike : Alike (SequenceBuilder.empty false) root (start.feed maxDepth before)
      (feed maxDepth ⟨root, []⟩ before) := feed_alike rfl hroot [] before
  cases h with
  | @step _ after token last walk refused =>
      rw [walk] at halike
      generalize hwalk : feed maxDepth ⟨root, []⟩ before = result at halike
      cases halike with
      | @ok pieces apart frames =>
          have hstep : Alike ((SequenceBuilder.empty false).write pieces) (root.write pieces)
              (step maxDepth ⟨(SequenceBuilder.empty false).write pieces, frames⟩ token)
              (step maxDepth ⟨root.write pieces, frames⟩ token) :=
            step_alike (by simp [SequenceBuilder.empty]) (by simp [hroot]) frames token
          refine Fails.step hwalk ?_
          rw [refused] at hstep
          generalize step maxDepth ⟨root.write pieces, frames⟩ token = outcome at hstep ⊢
          cases hstep
          rfl
  | @finish _ last walk unfinished =>
      rw [walk] at halike
      generalize hwalk : feed maxDepth ⟨root, []⟩ tokens = result at halike
      cases halike with
      | @ok pieces apart frames =>
          refine Fails.finish hwalk ?_
          cases frames with
          | nil => simp [finish] at unfinished
          | cons frame below => cases frame <;> exact unfinished

end Parser

end MessageTemplate
