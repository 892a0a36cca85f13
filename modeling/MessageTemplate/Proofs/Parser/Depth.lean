/-
The limit on open frames bounds the depth of trees.

A node is finished while the frames around it are still open.  So the frames that are open
where a node is written are a budget that the node has not used: of the frames that are
left, each branch took two, one for itself and one for the content of an option, and each
node of a path took at most one, apart from the sequence at the top and the leaf at the
bottom.  `Parser.Fits` says this of everything that the machine holds, at the level where it
holds it, and a step keeps it (`Fits.step`).

A quoted run takes a frame and leaves no node, and an option that is replaced leaves nothing
either.  Both only leave budget unused.
-/
import MessageTemplate.Proofs.Parser.Sound

namespace MessageTemplate

/-! ### Paths -/

namespace Node

/-- Whether a node is a branch. -/
def isBranch : Node → Bool
  | .branch _ => true
  | _ => false

/-- The nodes right below a node. -/
def children : Node → List Node
  | .sequence parts => parts
  | .branch choice => choice.options.map (·.2)
  | _ => []

/-- The nodes from a tree down, each right below the one before.  A path may stop at any
node, so those that end at leaves are among them. -/
inductive Path : Node → List Node → Prop
  | stop (node : Node) : Path node [node]
  | down {node child : Node} {path : List Node} (mem : child ∈ node.children)
      (rest : Path child path) : Path node (node :: path)

/-- A tree with at most so many branches and so many nodes on each path. -/
def Within (branches nodes : Nat) (node : Node) : Prop :=
  ∀ path, node.Path path → path.countP isBranch ≤ branches ∧ path.length ≤ nodes

variable {branches nodes : Nat}

theorem Within.mono {node : Node} (h : node.Within branches nodes) {more others : Nat}
    (hbranches : branches ≤ more) (hnodes : nodes ≤ others) : node.Within more others :=
  fun path hpath => ⟨Nat.le_trans (h path hpath).1 hbranches, Nat.le_trans (h path hpath).2 hnodes⟩

/-- One more node on top of trees. -/
theorem within_of_children {node : Node}
    (h : ∀ child ∈ node.children, child.Within branches nodes) :
    node.Within (branches + if node.isBranch then 1 else 0) (nodes + 1) := by
  intro path hpath
  cases hpath with
  | stop =>
      rw [List.countP_singleton, List.length_singleton]
      exact ⟨Nat.le_add_left _ _, Nat.le_add_left _ _⟩
  | @down _ child path mem rest =>
      obtain ⟨hbranches, hnodes⟩ := h child mem path rest
      rw [List.countP_cons, List.length_cons]
      exact ⟨Nat.add_le_add_right hbranches _, Nat.add_le_add_right hnodes 1⟩

theorem within_of_leaf {node : Node} (hleaf : node.children = [])
    (hbranch : node.isBranch = false) : node.Within 0 1 := by
  have h : node.Within (0 + if node.isBranch then 1 else 0) (0 + 1) :=
    within_of_children (by simp [hleaf])
  simpa [hbranch] using h

theorem within_ofParts {parts : List Node}
    (h : ∀ part ∈ parts, part.Within branches nodes) :
    (ofParts parts).Within branches (nodes + 1) := by
  unfold ofParts
  split
  · exact (h _ (by simp)).mono (Nat.le_refl _) (Nat.le_succ _)
  · have hsequence : (Node.sequence parts).Within (branches + 0) (nodes + 1) :=
      within_of_children h
    exact hsequence

end Node

/-! ### What fits where frames are open -/

variable {maxDepth level : Nat}

/-- A node that may be written where so many frames are open. -/
def Node.Fits (maxDepth level : Nat) (node : Node) : Prop :=
  node.Within ((maxDepth - level) / 2) (maxDepth + 1 - level)

/-- A node that may be all that was written where so many frames are open. -/
def Node.Fills (maxDepth level : Nat) (node : Node) : Prop :=
  level ≤ maxDepth ∧ node.Within ((maxDepth - level) / 2) (maxDepth + 2 - level)

namespace Node

/-- With fewer frames open there is more room. -/
theorem Fits.of_le {node : Node} (h : node.Fits maxDepth level) {lower : Nat}
    (hle : lower ≤ level) : node.Fits maxDepth lower :=
  Within.mono h (by omega) (by omega)

theorem fits_of_leaf {node : Node} (hleaf : node.children = [])
    (hbranch : node.isBranch = false) (hlevel : level ≤ maxDepth) :
    node.Fits maxDepth level :=
  (within_of_leaf hleaf hbranch).mono (Nat.zero_le _) (by omega)

/-- A branch fits two levels below the contents of its options. -/
theorem fits_branch {choice : Branch Node} (nonempty : choice.options ≠ [])
    (h : ∀ option ∈ choice.options, option.2.Fills maxDepth (level + 2)) :
    (Node.branch choice).Fits maxDepth level := by
  obtain ⟨option, hoption⟩ := List.exists_mem_of_ne_nil _ nonempty
  have hlevel : level + 2 ≤ maxDepth := (h option hoption).1
  have hwithin : (Node.branch choice).Within ((maxDepth - (level + 2)) / 2 + 1)
      (maxDepth + 2 - (level + 2) + 1) := by
    refine within_of_children fun child hchild => ?_
    obtain ⟨option, hoption, rfl⟩ := List.mem_map.mp hchild
    exact (h option hoption).2
  exact hwithin.mono (by omega) (by omega)

end Node

/-- A level of a sequence of which every part fits. -/
def SequenceBuilder.Fits (maxDepth level : Nat) (builder : SequenceBuilder) : Prop :=
  ∀ part ∈ builder.parts, part.Fits maxDepth level

namespace SequenceBuilder

variable {builder : SequenceBuilder}

theorem fits_empty (numberFields : Bool) : (empty numberFields).Fits maxDepth level := by
  simp [Fits, empty]

theorem Fits.flush (h : builder.Fits maxDepth level) (hlevel : level ≤ maxDepth) :
    builder.flush.Fits maxDepth level := by
  unfold SequenceBuilder.flush
  split
  · exact h
  · intro part hpart
    rcases Array.mem_push.mp hpart with hold | rfl
    · exact h part hold
    · exact Node.fits_of_leaf rfl rfl hlevel

/-- A level takes any text, and any node that fits. -/
theorem Fits.add (h : builder.Fits maxDepth level) (hlevel : level ≤ maxDepth)
    {piece : Piece} (hpiece : ∀ node, piece = .node node → node.Fits maxDepth level) :
    (builder.add piece).Fits maxDepth level := by
  cases piece with
  | text text => exact h
  | node node =>
      intro part hpart
      rcases Array.mem_push.mp hpart with hold | rfl
      · exact h.flush hlevel part hold
      · exact hpiece part rfl

theorem Fits.finish (h : builder.Fits maxDepth level) (hlevel : level ≤ maxDepth) :
    builder.finish.Fills maxDepth level := by
  refine ⟨hlevel, ?_⟩
  have hparts : ∀ part ∈ builder.flush.parts.toList,
      part.Within ((maxDepth - level) / 2) (maxDepth + 1 - level) :=
    fun part hpart => h.flush hlevel part (by simpa using hpart)
  exact (Node.within_ofParts hparts).mono (Nat.le_refl _) (by omega)

end SequenceBuilder

/-- A frame of which all that it holds fits, on so many frames below it. -/
def Frame.Fits (maxDepth below : Nat) : Frame → Prop
  | .quoted _ => True
  | .replacement (.options branch _) =>
    ∀ option ∈ branch.options, option.2.Fills maxDepth (below + 2)
  | .replacement _ => True
  | .content _ sequence => sequence.Fits maxDepth (below + 1)

/-- Frames within the limit, each of which fits on those below it. -/
def FramesFit (maxDepth : Nat) : List Frame → Prop
  | [] => True
  | frame :: below =>
    below.length < maxDepth ∧ frame.Fits maxDepth below.length ∧ FramesFit maxDepth below

theorem FramesFit.length_le {stack : List Frame} (h : FramesFit maxDepth stack) :
    stack.length ≤ maxDepth := by
  cases stack with
  | nil => exact Nat.zero_le _
  | cons frame below => exact h.1

namespace Parser

/-- A machine of which all that it holds fits. -/
structure Fits (maxDepth : Nat) (parser : Parser) : Prop where
  root : parser.root.Fits maxDepth 0
  frames : FramesFit maxDepth parser.stack

variable {parser next : Parser} {token : Token}

theorem fits_start : start.Fits maxDepth :=
  ⟨SequenceBuilder.fits_empty false, trivial⟩

theorem fits_push {frame : Frame} :
    (parser.push frame).Fits maxDepth ↔
      parser.Fits maxDepth ∧ parser.stack.length < maxDepth ∧
        frame.Fits maxDepth parser.stack.length :=
  ⟨fun h => ⟨⟨h.root, h.frames.2.2⟩, h.frames.1, h.frames.2.1⟩,
    fun h => ⟨h.1.root, h.2.1, h.2.2, h.1.frames⟩⟩

/-- Writing keeps a machine fitting, if what is written fits on top of all open frames. -/
theorem Fits.write (h : parser.Fits maxDepth) (piece : Piece)
    (hpiece : ∀ node, piece = .node node → node.Fits maxDepth parser.stack.length) :
    (parser.modifySequence (·.add piece)).Fits maxDepth := by
  induction parser using stackInduction with
  | root sequence => exact ⟨SequenceBuilder.Fits.add h.root (Nat.zero_le _) hpiece, trivial⟩
  | content below key sequence =>
      obtain ⟨hbelow, hlength, hsequence⟩ := fits_push.mp h
      rw [modifySequence_push_content]
      exact fits_push.mpr
        ⟨hbelow, hlength, SequenceBuilder.Fits.add hsequence hlength hpiece⟩
  | through below frame hframe ih =>
      obtain ⟨hbelow, hlength, hfits⟩ := fits_push.mp h
      rw [modifySequence_push _ _ hframe]
      refine fits_push.mpr ⟨ih hbelow fun node hnode => ?_, ?_, ?_⟩
      · exact (hpiece node hnode).of_le (Nat.le_succ _)
      · rwa [length_modifySequence]
      · rwa [length_modifySequence]

theorem Fits.writeText (h : parser.Fits maxDepth) (text : String) :
    (parser.modifySequence (·.pushText text)).Fits maxDepth :=
  h.write (.text text) (by simp)

theorem openFrame_lt {frame : Frame} (h : parser.openFrame maxDepth frame = .ok next) :
    parser.stack.length < maxDepth := by
  unfold openFrame at h
  split at h
  · simp at h
  · omega

/-! ### A step keeps a machine fitting -/

theorem Fits.openFrame (h : parser.Fits maxDepth) {frame : Frame}
    (hopen : parser.openFrame maxDepth frame = .ok next)
    (hframe : frame.Fits maxDepth parser.stack.length) : next.Fits maxDepth := by
  rw [openFrame_eq_ok hopen]
  exact fits_push.mpr ⟨h, openFrame_lt hopen, hframe⟩

/-- A content that closes fills its option. -/
theorem Fits.closeContent (h : parser.Fits maxDepth)
    (hclose : parser.closeContent = .ok next) : next.Fits maxDepth := by
  unfold Parser.closeContent at hclose
  split at hclose
  · rename_i key sequence branch pendingKey below hstack
    obtain rfl := Except.ok.inj hclose
    have hframes := h.frames
    rw [hstack] at hframes
    obtain ⟨hlength, hsequence, hlower, hbranch, hbelow⟩ := hframes
    refine ⟨h.root, hlower, fun option hoption => ?_, hbelow⟩
    rcases mem_insertOption hoption with rfl | hold
    · exact hsequence.finish hlength
    · exact hbranch option hold
  · simp at hclose

theorem Fits.stepSequence (h : parser.Fits maxDepth)
    (hstep : parser.stepSequence maxDepth token = .ok next) : next.Fits maxDepth := by
  cases token with
  | leftBrace => exact h.openFrame hstep trivial
  | quote => exact h.openFrame hstep trivial
  | rightBrace => exact h.closeContent hstep
  | hash =>
      obtain rfl := Except.ok.inj hstep
      rw [modifySequence_pushHash]
      refine h.write _ fun node hnode => ?_
      cases hflag : parser.current.numberFields with
      | false => simp [hflag] at hnode
      | true =>
          obtain rfl : Node.numberField = node := by simpa [hflag] using hnode
          exact Node.fits_of_leaf rfl rfl h.frames.length_le
  | comma =>
      obtain rfl := Except.ok.inj hstep
      exact h.writeText _
  | spaces run =>
      obtain rfl := Except.ok.inj hstep
      exact h.writeText _
  | text run =>
      obtain rfl := Except.ok.inj hstep
      exact h.writeText _

theorem Fits.stepQuoted (h : parser.Fits maxDepth) (hlength : parser.stack.length < maxDepth)
    (consumed : Bool) : (parser.stepQuoted consumed token).Fits maxDepth := by
  by_cases hquote : token = .quote
  · subst hquote
    cases consumed with
    | true => exact h
    | false => exact h.writeText _
  · rw [stepQuoted_of_ne hquote]
    exact fits_push.mpr ⟨h.writeText _, by rwa [length_modifySequence], trivial⟩

theorem Fits.stepReplacement (h : parser.Fits maxDepth)
    (hlength : parser.stack.length < maxDepth) {stage : ReplacementStage}
    (hstage : Frame.Fits maxDepth parser.stack.length (.replacement stage))
    (hstep : parser.stepReplacement maxDepth stage token = .ok next) : next.Fits maxDepth := by
  cases moves_of_stepReplacement hstep with
  | blank => exact fits_push.mpr ⟨h, hlength, hstage⟩
  | name => exact fits_push.mpr ⟨h, hlength, trivial⟩
  | comma => exact fits_push.mpr ⟨h, hlength, trivial⟩
  | operator => exact fits_push.mpr ⟨h, hlength, trivial⟩
  | options => exact fits_push.mpr ⟨h, hlength, by simp [Frame.Fits, Branch.empty]⟩
  | key => exact fits_push.mpr ⟨h, hlength, hstage⟩
  | content branch key =>
      have hwaiting : (parser.push (.replacement (.options branch none))).Fits maxDepth :=
        fits_push.mpr ⟨h, hlength, hstage⟩
      exact hwaiting.openFrame hstep (SequenceBuilder.fits_empty _)
  | placeholder name =>
      refine h.write (.node (.placeholder name)) fun node hnode => ?_
      obtain rfl := Piece.node.inj hnode
      exact Node.fits_of_leaf rfl rfl (Nat.le_of_lt hlength)
  | close branch nonempty =>
      refine h.write (.node (.branch branch)) fun node hnode => ?_
      obtain rfl := Piece.node.inj hnode
      exact Node.fits_branch nonempty hstage

/-- **A step keeps a machine fitting.** -/
theorem Fits.step (h : parser.Fits maxDepth) (hstep : parser.step maxDepth token = .ok next) :
    next.Fits maxDepth := by
  obtain hin | ⟨below, consumed, rfl⟩ | ⟨below, stage, rfl⟩ := parser.inSequence_or
  · rw [step_of_inSequence hin] at hstep
    exact h.stepSequence hstep
  · obtain ⟨hbelow, hlength, -⟩ := fits_push.mp h
    obtain rfl := Except.ok.inj hstep
    exact hbelow.stepQuoted hlength consumed
  · obtain ⟨hbelow, hlength, hstage⟩ := fits_push.mp h
    exact hbelow.stepReplacement hlength hstage hstep

theorem Fits.feed {tokens : List Token} (h : parser.Fits maxDepth)
    (hfeed : parser.feed maxDepth tokens = .ok next) : next.Fits maxDepth :=
  feed_keeps (motive := fun _ parser => parser.Fits maxDepth) Fits.step [] h hfeed

/-- **No more frames are open than the limit allows.** -/
theorem length_stack_le {tokens : List Token} (h : start.feed maxDepth tokens = .ok next) :
    next.stack.length ≤ maxDepth :=
  (fits_start.feed h).frames.length_le

/-- **The paths of a tree are as short as the limit makes them.** -/
theorem within_of_parseTokens {tokens : List Token} {node : Node}
    (h : parseTokens maxDepth tokens = .ok node) : node.Within (maxDepth / 2) (maxDepth + 2) := by
  obtain ⟨last, hfeed, hfinish⟩ := parseTokens_eq_ok_iff.mp h
  obtain ⟨-, rfl⟩ := finish_eq_ok_iff.mp hfinish
  exact ((fits_start.feed hfeed).root.finish (Nat.zero_le _)).2

end Parser

end MessageTemplate
