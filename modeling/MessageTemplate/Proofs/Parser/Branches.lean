/-
Branches as they are written.

A branch may be written with a key that comes again.  What the parser makes of it is a matter
of insertions: the contents go to the branch that is open, one after the other, in the order of
writing (`Branch.Shows`).  What is said here is that they go to the right one, however deep
branches are nested in one another.

A place of a branch (`BranchPlace`) is told from the tokens alone: those before it lead the
machine into a sequence, and there the tokens come that the grammar derives the branch from.
At each place the machine adds one branch to the sequence that is open, and this branch shows
what is written there (`BranchPlace.read`).  Conversely, each branch of the tree was written
at some place.  That is an induction over derivations, with the walk to the derived tokens
carried along.
-/
import MessageTemplate.Proofs.Names
import MessageTemplate.Proofs.NormalForm
import MessageTemplate.Proofs.Parser.Limit

namespace MessageTemplate

open Grammar (Sequence Item Options)

/-! ### Tokens of a branch -/

/-- Tokens that a branch is written with, with its options in the order of writing. -/
inductive Grammar.Written (name : String) (kind : BranchKind) :
    List Token → List (String × Node) → Prop
  | braces {b₁ b₂ b₃ b₄ b₅ tokens : List Token} {options : List (String × Node)}
      (blank₁ : Blank b₁) (blank₂ : Blank b₂) (blank₃ : Blank b₃) (blank₄ : Blank b₄)
      (blank₅ : Blank b₅) (nonempty : options ≠ [])
      (derived : Options (kind == .plural) tokens options) :
      Written name kind
        (.leftBrace :: b₁ ++ .text name :: b₂ ++ .comma :: b₃ ++ .text kind.operator :: b₄ ++
          .comma :: tokens ++ b₅ ++ [.rightBrace])
        options

theorem Grammar.Written.item {inPlural : Bool} {name : String} {kind : BranchKind}
    {tokens : List Token} {options : List (String × Node)}
    (h : Grammar.Written name kind tokens options) :
    Item inPlural tokens (.node (.branch ((Branch.empty name kind).insertAll options))) := by
  cases h with
  | braces blank₁ blank₂ blank₃ blank₄ blank₅ nonempty derived =>
      exact Item.branch blank₁ blank₂ blank₃ blank₄ blank₅ name kind nonempty derived

/-- The branches in a sequence are those of its pieces. -/
theorem Piece.exists_of_mem_branches {pieces : List Piece} {choice : Branch Node}
    (h : choice ∈ (assemble pieces).branches) :
    ∃ node, .node node ∈ pieces ∧ choice ∈ node.branches := by
  have hpart : ∃ part ∈ partsAfter "" pieces, choice ∈ part.branches := by
    obtain ⟨part, hpart, htree⟩ | ⟨-, htree⟩ := assemble_cases pieces
    · rw [htree] at h
      exact ⟨part, by simp [hpart], h⟩
    · rw [htree, Node.branches, Node.partBranches_eq_flatMap] at h
      exact List.mem_flatMap.mp h
  obtain ⟨part, hmem, hchoice⟩ := hpart
  rcases mem_partsAfter hmem with ⟨text, -, rfl⟩ | hnode
  · simp [Node.branches] at hchoice
  · exact ⟨part, hnode, hchoice⟩

namespace Parser

variable {maxDepth : Nat}

/-! ### Places of branches -/

/-- **A place where a branch is written** among tokens that the machine reads. -/
structure BranchPlace (maxDepth : Nat) (parser : Parser) (tokens : List Token) where
  /-- The tokens before the branch. -/
  before : List Token
  /-- The tokens of the branch. -/
  segment : List Token
  /-- The tokens behind the branch. -/
  after : List Token
  tokens_eq : tokens = before ++ (segment ++ after)
  /-- The machine in front of the branch. -/
  outside : Parser
  walk : parser.feed maxDepth before = .ok outside
  inSequence : outside.InSequence
  name : String
  kind : BranchKind
  /-- The keys and contents in the order of writing. -/
  options : List (String × Node)
  written : Grammar.Written name kind segment options

/-- A branch that comes from the options that are written at some place. -/
def Writes (maxDepth : Nat) (parser : Parser) (tokens : List Token) (choice : Branch Node) :
    Prop :=
  ∃ place : BranchPlace maxDepth parser tokens,
    choice = (Branch.empty place.name place.kind).insertAll place.options

/-- A place behind other tokens. -/
theorem Writes.behind {parser next : Parser} {tokens : List Token} {choice : Branch Node}
    (h : Writes maxDepth next tokens choice) {before : List Token}
    (walk : parser.feed maxDepth before = .ok next) (after : List Token) :
    Writes maxDepth parser (before ++ (tokens ++ after)) choice := by
  obtain ⟨place, rfl⟩ := h
  refine ⟨{ place with
    before := before ++ place.before
    after := place.after ++ after
    tokens_eq := ?_
    walk := ?_ }, rfl⟩
  · have htokens := congrArg (fun tokens => before ++ (tokens ++ after)) place.tokens_eq
    simpa only [List.append_assoc] using htokens
  · rw [feed_append walk, place.walk]

mutual

/-- **Each branch in a derived sequence is written at some place.** -/
theorem writes_of_sequence {inPlural : Bool} {tokens : List Token} {pieces : List Piece}
    (h : Sequence inPlural tokens pieces) (parser : Parser) (hin : parser.InSequence)
    (hflag : parser.current.numberFields = inPlural)
    (hdepth : parser.stack.length + tokens.length ≤ maxDepth) (node : Node)
    (hnode : .node node ∈ pieces) (choice : Branch Node) (hchoice : choice ∈ node.branches) :
    Writes maxDepth parser tokens choice := by
  match h with
  | .nil => simp at hnode
  | @Sequence.cons _ first rest piece _ head tail =>
      rw [List.length_append] at hdepth
      rcases List.mem_cons.mp hnode with hpiece | htail
      · have hstay : parser.feed maxDepth [] = .ok parser := rfl
        have hwrites := writes_of_item head parser hin hflag (by omega) node hpiece.symm choice
          hchoice
        exact hwrites.behind hstay rest
      · have hwalk : parser.feed maxDepth first = .ok (parser.modifySequence (·.add piece)) :=
          feed_item head parser hin hflag (by omega)
        have hwrites := writes_of_sequence tail (parser.modifySequence (·.add piece))
          (hin.modifySequence _)
          (by rw [hin.current_modifySequence, SequenceBuilder.add_numberFields, hflag])
          (by rw [length_modifySequence]; omega) node htail choice hchoice
        simpa using hwrites.behind hwalk []

theorem writes_of_item {inPlural : Bool} {tokens : List Token} {piece : Piece}
    (h : Item inPlural tokens piece) (parser : Parser) (hin : parser.InSequence)
    (hflag : parser.current.numberFields = inPlural)
    (hdepth : parser.stack.length + tokens.length ≤ maxDepth) (node : Node)
    (hnode : piece = .node node) (choice : Branch Node) (hchoice : choice ∈ node.branches) :
    Writes maxDepth parser tokens choice := by
  match h with
  | .comma | .spaces _ | .text _ | .hash | .doubledQuote | .quoted _ _ => simp at hnode
  | .numberField | .placeholder _ _ _ =>
      obtain rfl := Piece.node.inj hnode
      simp [Node.branches] at hchoice
  | @Item.branch _ b₁ b₂ b₃ b₄ b₅ inner options blank₁ blank₂ blank₃ blank₄ blank₅ name kind
      nonempty derived =>
      obtain rfl := Piece.node.inj hnode
      rw [Node.branches, Node.optionBranches_eq_flatMap] at hchoice
      rcases List.mem_cons.mp hchoice with rfl | hinside
      · -- It is the branch itself.
        have hwritten : Grammar.Written name kind _ options :=
          Grammar.Written.braces blank₁ blank₂ blank₃ blank₄ blank₅ nonempty derived
        exact ⟨{ before := [], segment := _, after := [], tokens_eq := by simp, outside := parser,
                 walk := rfl, inSequence := hin, name, kind, options, written := hwritten }, rfl⟩
      · -- It is in the content of an option, and so in what was written for it.
        obtain ⟨option, hoption, hmem⟩ := List.mem_flatMap.mp hinside
        have hmade : option ∈ options := by
          rcases mem_insertAll hoption with hmade | hempty
          · exact hmade
          · simp [Branch.empty] at hempty
        simp only [List.length_append, List.length_cons] at hdepth
        have hroom : parser.stack.length < maxDepth := by omega
        have hwalk := feed_branchHead hin hroom blank₁ blank₂ blank₃ blank₄ name kind []
        have hwrites := writes_of_options derived parser (Branch.empty name kind) rfl (by omega)
          option hmade choice hmem
        simpa using hwrites.behind hwalk (b₅ ++ [.rightBrace])

/-- Each branch in the contents of derived options is written at some place among them. -/
theorem writes_of_options {inPlural : Bool} {tokens : List Token}
    {options : List (String × Node)} (h : Options inPlural tokens options) (parser : Parser)
    (branch : Branch Node) (hkind : (branch.kind == .plural) = inPlural)
    (hdepth : parser.stack.length + 1 + tokens.length ≤ maxDepth)
    (option : String × Node) (hoption : option ∈ options) (choice : Branch Node)
    (hchoice : choice ∈ option.2.branches) :
    Writes maxDepth (parser.push (.replacement (.options branch none))) tokens choice := by
  match h with
  | .nil => simp at hoption
  | @Options.cons _ b₁ b₂ inner rest pieces _ blank₁ blank₂ key content tail =>
      simp only [List.length_append, List.length_cons] at hdepth
      have hroom : parser.stack.length + 1 < maxDepth := by omega
      let inside := (parser.push (.replacement (.options branch none))).push
        (.content key (SequenceBuilder.empty (branch.kind == .plural)))
      have hin : inside.InSequence := inSequence_push_content _ key _
      have hinner : inside.stack.length + inner.length ≤ maxDepth := by
        simp only [inside, length_push]
        omega
      rcases List.mem_cons.mp hoption with rfl | htail
      · obtain ⟨node, hnode, hmem⟩ := Piece.exists_of_mem_branches hchoice
        have hwalk := feed_optionHead hroom blank₁ blank₂ branch key []
        have hwrites := writes_of_sequence content inside hin hkind hinner node hnode choice hmem
        simpa using hwrites.behind hwalk (.rightBrace :: rest)
      · have hcontent := feed_sequence content inside hin hkind hinner
        have hwalk := feed_option hroom blank₁ blank₂ branch key hcontent []
        have hwrites := writes_of_options tail parser (branch.insert key (Piece.assemble pieces))
          hkind (by omega) option htail choice hchoice
        simpa using hwrites.behind hwalk []

end

/-! ### Accepted templates -/

variable {tokens : List Token} {node : Node}

/-- **What the machine makes of a place**: it adds a branch to the sequence that is open there,
and the branch shows what is written. -/
structure BranchPlace.Delivers (place : BranchPlace maxDepth start tokens)
    (choice : Branch Node) : Prop where
  name : choice.name = place.name
  kind : choice.kind = place.kind
  shows : choice.Shows place.options
  walk : start.feed maxDepth (place.before ++ place.segment)
    = .ok (place.outside.modifySequence (·.pushNode (.branch choice)))

/-- In an accepted template the machine makes of a place what is written there. -/
theorem BranchPlace.delivers (place : BranchPlace maxDepth start tokens)
    (h : parseTokens maxDepth tokens = .ok node) :
    place.Delivers ((Branch.empty place.name place.kind).insertAll place.options) where
  name := insertAll_name _ _
  kind := insertAll_kind _ _
  shows := Branch.shows_insertAll place.name place.kind place.options
  walk := by
    obtain ⟨last, hfeed, -⟩ := parseTokens_eq_ok_iff.mp h
    rw [place.tokens_eq, ← List.append_assoc] at hfeed
    obtain ⟨next, hnext, -⟩ := exists_feed_of_append hfeed
    have hsegment : place.outside.feed maxDepth place.segment = .ok next := by
      rw [← feed_append place.walk, hnext]
    -- The grammar tells where the tokens of the branch lead if there is room for all of them.
    let larger := max maxDepth (place.outside.stack.length + place.segment.length)
    have hlarger := feed_of_le (Nat.le_max_left _ _ : maxDepth ≤ larger) hsegment
    have hitem := feed_item place.written.item place.outside place.inSequence rfl
      (Nat.le_max_right _ _ : _ ≤ larger)
    obtain rfl := Except.ok.inj (hlarger.symm.trans hitem)
    exact hnext

/-- **Each branch of the tree of an accepted template is written at some place.** -/
theorem writes_of_parseTokens (h : parseTokens maxDepth tokens = .ok node)
    {choice : Branch Node} (hchoice : choice ∈ node.branches) :
    Writes maxDepth start tokens choice := by
  obtain ⟨pieces, derived, rfl⟩ := template_of_parseTokens h
  obtain ⟨part, hpart, hmem⟩ := Piece.exists_of_mem_branches hchoice
  let larger := max maxDepth tokens.length
  have hroom : start.stack.length + tokens.length ≤ larger := by
    show 0 + tokens.length ≤ max maxDepth tokens.length
    omega
  obtain ⟨place, hplace⟩ := writes_of_sequence derived start (inSequence_root _) rfl hroom part
    hpart choice hmem
  -- The walk to the place is possible under the limit of the template, because the whole is.
  obtain ⟨last, hfeed, -⟩ := parseTokens_eq_ok_iff.mp h
  rw [place.tokens_eq] at hfeed
  obtain ⟨outside, houtside, -⟩ := exists_feed_of_append hfeed
  have hlarger := feed_of_le (Nat.le_max_left _ _ : maxDepth ≤ larger) houtside
  obtain rfl := Except.ok.inj (hlarger.symm.trans place.walk)
  exact ⟨{ place with walk := houtside }, hplace⟩

/-- **A tree whose branches show what is written for them.** -/
structure ShowsWritten (maxDepth : Nat) (tokens : List Token) (node : Node) : Prop where
  /-- Wherever a branch is written, a branch comes of it that shows what is written. -/
  delivered : ∀ place : BranchPlace maxDepth start tokens, ∃ choice, place.Delivers choice
  /-- Each branch of the tree comes so from a place. -/
  written : ∀ choice ∈ node.branches,
    ∃ place : BranchPlace maxDepth start tokens, place.Delivers choice

/--
**A branch is an insertion-ordered map.**

Whatever is written to a new branch, it has each key once and in the order in which the keys
were written first, and a key has the content that was written last.  The options of a branch
in a template are written so, in the order in which they stand there: each key is found at the
place of its first option, with the content of its last one.
-/
theorem branch_isInsertionOrdered :
    (∀ {α : Type} (name : String) (kind : BranchKind) (written : List (String × α)),
      ((Branch.empty name kind).insertAll written).Shows written) ∧
    ∀ {maxDepth : Nat} {tokens : List Token} {node : Node},
      parseTokens maxDepth tokens = .ok node → ShowsWritten maxDepth tokens node := by
  refine ⟨Branch.shows_insertAll, fun h => ⟨fun place => ⟨_, place.delivers h⟩, ?_⟩⟩
  intro choice hchoice
  obtain ⟨place, rfl⟩ := writes_of_parseTokens h hchoice
  exact ⟨place, place.delivers h⟩

/-- A key that comes again with a branch for its content, in which a key comes again. -/
theorem branch_isInsertionOrdered_repeated :
    let tokens := lex ("\x7ba,select,x\x7b1\x7dy\x7b2\x7d" ++
      "x\x7b\x7bb,plural,one\x7b#\x7dother\x7b3\x7done\x7b4\x7d\x7d\x7d\x7d")
    let inside : Node := .branch
      { name := "b", kind := .plural,
        options := [("one", .literal "4"), ("other", .literal "3")] }
    let node : Node := .branch
      { name := "a", kind := .select, options := [("x", inside), ("y", .literal "2")] }
    parseTokens 5 tokens = .ok node ∧ ShowsWritten 5 tokens node := by
  intro tokens inside node
  have h : parseTokens 5 tokens = .ok node := rfl
  exact ⟨h, branch_isInsertionOrdered.2 h⟩

end Parser

end MessageTemplate
