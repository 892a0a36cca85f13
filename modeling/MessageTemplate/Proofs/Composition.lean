/-
Templates compose.

Two templates put together are read as the one and then the other.  Where they meet, two
runs of one sort become one token, so the tokens are not simply put together.  But nothing
is open there, so the run is text, and text in one piece is the same as text in two
(`parseTokens_lex_append`).  Quotes that meet are no trouble either: the parser never looks
ahead, so a quote that closed the first template stays closed.

The tree is another matter, for a tree of one part is that part and not a sequence.  So trees
are put together by their parts (`Node.join`), and a literal that meets a literal becomes one
with it, just as the texts do that they were read from.
-/
import MessageTemplate.Proofs.Lexer.Canonical
import MessageTemplate.Proofs.Parser.TopLevel
import MessageTemplate.Proofs.Visits

namespace MessageTemplate

/-! ### Where two templates meet -/

/-- What makes a run of its characters: spaces, or text. -/
def Token.IsRunOf (make : String → Token) : Prop :=
  make = Token.spaces ∨ make = Token.text

namespace Token

variable {make : String → Token}

/-- Two tokens that are not apart are runs of one sort. -/
theorem exists_isRunOf {first second : Token} (h : ¬first.Apart second) :
    ∃ make run more, IsRunOf make ∧ first = make run ∧ second = make more := by
  cases first <;> cases second <;> simp [Apart, isText, isSpaces] at h
  case spaces run more => exact ⟨spaces, run, more, Or.inl rfl, rfl, rfl⟩
  case text run more => exact ⟨text, run, more, Or.inr rfl, rfl, rfl⟩

theorem IsRunOf.source (h : IsRunOf make) (run : String) : (make run).source = run := by
  rcases h with rfl | rfl <;> rfl

/-- The characters of a run do not matter to what is beside it. -/
theorem IsRunOf.apart_left (h : IsRunOf make) {run more : String} {token : Token}
    (apart : token.Apart (make run)) : token.Apart (make more) := by
  rcases h with rfl | rfl <;> exact apart

theorem IsRunOf.apart_right (h : IsRunOf make) {run more : String} {token : Token}
    (apart : (make run).Apart token) : (make more).Apart token := by
  rcases h with rfl | rfl <;> exact apart

/-- Two runs of one sort are a run together. -/
theorem IsRunOf.append (h : IsRunOf make) {run more : String} (hrun : (make run).IsRun)
    (hmore : (make more).IsRun) : (make (run ++ more)).IsRun := by
  have hboth : ∀ {p : Char → Prop}, (run ≠ "" ∧ ∀ c ∈ run.toList, p c) →
      (∀ c ∈ more.toList, p c) → run ++ more ≠ "" ∧ ∀ c ∈ (run ++ more).toList, p c := by
    intro p hrun hmore
    rw [String.toList_append]
    exact ⟨by simp [hrun.1], List.forall_mem_append.mpr ⟨hrun.2, hmore⟩⟩
  rcases h with rfl | rfl
  · exact hboth hrun hmore.2
  · exact hboth hrun hmore.2

end Token

namespace Canonical

variable {before after : List Token}

theorem append (hbefore : Canonical before) (hafter : Canonical after)
    (h : ∀ x ∈ before.getLast?, ∀ y ∈ after.head?, x.Apart y) : Canonical (before ++ after) where
  runs := List.forall_mem_append.mpr ⟨hbefore.runs, hafter.runs⟩
  apart := List.isChain_append.mpr ⟨hbefore.apart, hafter.apart, h⟩

/-- Two runs of one sort that meet become one. -/
theorem fuse {make : String → Token} (hmake : Token.IsRunOf make) {run more : String}
    (hbefore : Canonical (before ++ [make run])) (hafter : Canonical (make more :: after)) :
    Canonical (before ++ make (run ++ more) :: after) := by
  obtain ⟨hruns, hrun⟩ := List.forall_mem_append.mp hbefore.runs
  obtain ⟨hmore, hruns'⟩ := List.forall_mem_cons.mp hafter.runs
  obtain ⟨hapart, -, hseam⟩ := List.isChain_append.mp hbefore.apart
  obtain ⟨hseam', hapart'⟩ := List.isChain_cons.mp hafter.apart
  have hfused := hmake.append (hrun (make run) (by simp)) hmore
  constructor
  · exact List.forall_mem_append.mpr ⟨hruns, List.forall_mem_cons.mpr ⟨hfused, hruns'⟩⟩
  · refine List.isChain_append.mpr ⟨hapart, List.isChain_cons.mpr ⟨?_, hapart'⟩, ?_⟩
    · exact fun y hy => hmake.apart_right (hseam' y hy)
    · intro x hx y hy
      obtain rfl : make (run ++ more) = y := by simpa using hy
      exact hmake.apart_left (hseam x hx (make run) (by simp))

end Canonical

/-- The tokens of two templates are those of the one and of the other, apart from a run that
goes across. -/
theorem lex_append_cases (first second : String) :
    lex (first ++ second) = lex first ++ lex second ∨
      ∃ make before run more after, Token.IsRunOf make ∧ lex first = before ++ [make run] ∧
        lex second = make more :: after ∧
        lex (first ++ second) = before ++ make (run ++ more) :: after := by
  by_cases happart : ∀ x ∈ (lex first).getLast?, ∀ y ∈ (lex second).head?, x.Apart y
  · refine Or.inl ?_
    rw [← lex_sources ((canonical_lex first).append (canonical_lex second) happart),
      sources_append, sources_lex, sources_lex]
  · refine Or.inr ?_
    push Not at happart
    obtain ⟨x, hx, y, hy, hnot⟩ := happart
    obtain ⟨make, run, more, hmake, rfl, rfl⟩ := Token.exists_isRunOf hnot
    obtain ⟨before, hbefore⟩ := List.getLast?_eq_some_iff.mp hx
    obtain ⟨after, hafter⟩ := List.head?_eq_some_iff.mp hy
    refine ⟨make, before, run, more, after, hmake, hbefore, hafter, ?_⟩
    have hfirst := canonical_lex first
    have hsecond := canonical_lex second
    rw [hbefore] at hfirst
    rw [hafter] at hsecond
    have hsources : sources (before ++ make (run ++ more) :: after) = first ++ second := by
      rw [← sources_lex first, ← sources_lex second, hbefore, hafter]
      simp [sources, hmake.source, String.append_assoc]
    rw [← hsources, lex_sources (hfirst.fuse hmake hsecond)]

namespace Parser

variable {maxDepth : Nat} {make : String → Token}

/-- A run does not close anything. -/
theorem length_stack_le_of_run (hmake : Token.IsRunOf make) {run : String} {parser next : Parser}
    (h : parser.step maxDepth (make run) = .ok next) :
    parser.stack.length ≤ next.stack.length := by
  have hquote : make run ≠ .quote := by rcases hmake with rfl | rfl <;> simp
  obtain hin | ⟨below, consumed, rfl⟩ | ⟨below, stage, rfl⟩ := parser.inSequence_or
  · rw [step_of_inSequence hin] at h
    have hnext : parser.modifySequence (·.pushText (make run).source) = next := by
      rcases hmake with rfl | rfl <;> exact Except.ok.inj h
    rw [← hnext, length_modifySequence]
  · rw [step_push_quoted, stepQuoted_of_ne hquote] at h
    obtain rfl := Except.ok.inj h
    simp
  · have hmoves : Moves below stage (make run) next := moves_of_stepReplacement h
    rcases hmake with rfl | rfl <;> cases hmoves <;> simp

/-- A run at the top level is text. -/
theorem step_run (hmake : Token.IsRunOf make) (root : SequenceBuilder) (run : String) :
    step maxDepth ⟨root, []⟩ (make run) = .ok ⟨root.pushText run, []⟩ := by
  rcases hmake with rfl | rfl <;> rfl

/-- **Behind a template that is closed, another is read from there**, up to the index of its
first token, since a run may go across. -/
theorem parseTokens_lex_append {first : String} {root : SequenceBuilder}
    (hfirst : start.feed maxDepth (lex first) = .ok ⟨root, []⟩) (second : String) :
    ∃ index, parseTokens maxDepth (lex (first ++ second))
      = run maxDepth ⟨root, []⟩ first.length index (lex second) := by
  rcases lex_append_cases first second with happart | hacross
  · refine ⟨(lex first).length, ?_⟩
    rw [happart, parseTokens, run_append hfirst, sources_lex, Nat.zero_add, Nat.zero_add]
  · obtain ⟨make, before, left, right, after, hmake, hlex, hlex', hlexed⟩ := hacross
    rw [hlex] at hfirst
    obtain ⟨⟨outer, stack⟩, hwalk, hlast⟩ := exists_feed_of_append hfirst
    obtain ⟨_, hstep, hnothing⟩ := feed_cons_eq_ok_iff.mp hlast
    obtain rfl := Except.ok.inj hnothing
    obtain rfl : stack = [] :=
      List.eq_nil_of_length_eq_zero (Nat.le_zero.mp (length_stack_le_of_run hmake hstep))
    -- Both ways the text of the run is written, in one piece or in two.
    have hroot : outer.pushText left = root := by
      rw [step_run hmake] at hstep
      exact congrArg Parser.root (Except.ok.inj hstep)
    have hlength : first.length = (sources before).length + left.length := by
      rw [← String.length_append, ← sources_lex first, hlex]
      simp [sources, hmake.source]
    refine ⟨before.length, ?_⟩
    rw [hlexed, parseTokens, run_append hwalk, hlex', Parser.run, Parser.run, step_run hmake,
      step_run hmake, ← hroot, pushText_pushText, hlength]
    simp only [Token.length, hmake.source, String.length_append, Nat.zero_add, Nat.add_assoc]

end Parser

/-! ### Trees put together -/

namespace Node

/-- The parts that a tree stands for: its own if it is a sequence, else itself. -/
def parts : Node → List Node
  | .sequence parts => parts
  | node => [node]

/-- Parts and more parts; a literal at the end of the ones and a literal at the start of the
others become one. -/
def joinParts : List Node → List Node → List Node
  | [], others => others
  | [.literal text], .literal more :: others => .literal (text ++ more) :: others
  | part :: rest, others => part :: joinParts rest others

/-- The tree of the parts of two trees. -/
def join (first second : Node) : Node :=
  ofParts (joinParts first.parts second.parts)

theorem parts_of_isSequence {node : Node} (h : node.isSequence = false) :
    node.parts = [node] := by
  cases node <;> first | rfl | simp [isSequence] at h

theorem ne_literal {node : Node} (h : node.isLiteral = false) (text : String) :
    node ≠ .literal text := by
  rintro rfl
  simp [isLiteral] at h

theorem joinParts_nil (parts : List Node) : joinParts parts [] = parts := by
  induction parts with
  | nil => rfl
  | cons part rest ih =>
      rw [joinParts, ih]
      simp

/-- Parts are joined behind the last part that is no literal. -/
theorem joinParts_append {part : Node} (hliteral : part.isLiteral = false)
    (parts rest others : List Node) :
    joinParts (parts ++ part :: rest) others = parts ++ part :: joinParts rest others := by
  induction parts with
  | nil =>
      rw [List.nil_append, List.nil_append, joinParts]
      rintro text - - - hpart -
      exact ne_literal hliteral text hpart
  | cons first parts ih =>
      rw [List.cons_append, List.cons_append, joinParts, ih]
      rintro - - - - - h
      simp at h

end Node

namespace Piece

open Node (joinParts)

/-- A text in two pieces is joined to what follows as in one. -/
theorem joinParts_literalPart (text more : String) (others : List Node) :
    joinParts (literalPart (text ++ more)) others
      = joinParts (literalPart text) (joinParts (literalPart more) others) := by
  by_cases htext : text = ""
  · simp [htext, literalPart, joinParts]
  · by_cases hmore : more = ""
    · simp [hmore, literalPart, joinParts]
    · have hboth : text ++ more ≠ "" := by simp [htext]
      simp only [literalPart, if_neg htext, if_neg hmore, if_neg hboth]
      match others with
      | [] => rfl
      | .literal last :: rest => simp [joinParts, String.append_assoc]
      | .sequence _ :: _ | .numberField :: _ | .placeholder _ :: _ | .branch _ :: _ => rfl

/-- Text before pieces is a literal joined to their parts. -/
theorem partsAfter_eq_joinParts {pieces : List Piece}
    (apart : ∀ piece ∈ pieces, piece.StaysApart) (before : String) :
    partsAfter before pieces = joinParts (literalPart before) (partsAfter "" pieces) := by
  induction pieces generalizing before with
  | nil => exact (Node.joinParts_nil _).symm
  | cons piece pieces ih =>
      obtain ⟨hpiece, hpieces⟩ := List.forall_mem_cons.mp apart
      cases piece with
      | text more =>
          rw [partsAfter, partsAfter, ih hpieces, ih hpieces ("" ++ more), String.empty_append,
            joinParts_literalPart]
      | node part =>
          change literalPart before ++ part :: partsAfter "" pieces
            = joinParts (literalPart before) (part :: partsAfter "" pieces)
          unfold literalPart
          split
          · rfl
          · rw [joinParts]
            · rfl
            · intro _ more _ heq
              exact absurd (List.cons.inj heq).1 (Node.ne_literal hpiece.2 more)

/-- **The parts of pieces and more pieces are the parts of both, joined.** -/
theorem partsAfter_append {pieces more : List Piece}
    (apart : ∀ piece ∈ pieces, piece.StaysApart) (apart' : ∀ piece ∈ more, piece.StaysApart)
    (before : String) :
    partsAfter before (pieces ++ more)
      = joinParts (partsAfter before pieces) (partsAfter "" more) := by
  induction pieces generalizing before with
  | nil => exact partsAfter_eq_joinParts apart' before
  | cons piece pieces ih =>
      obtain ⟨hpiece, hpieces⟩ := List.forall_mem_cons.mp apart
      cases piece with
      | text text => exact ih hpieces (before ++ text)
      | node part =>
          rw [List.cons_append, partsAfter, partsAfter, ih hpieces,
            Node.joinParts_append hpiece.2]

theorem parts_assemble {pieces : List Piece} (apart : ∀ piece ∈ pieces, piece.StaysApart) :
    (assemble pieces).parts = partsAfter "" pieces := by
  obtain ⟨part, hpart, htree⟩ | ⟨-, htree⟩ := assemble_cases pieces
  · rw [htree, hpart]
    rcases mem_partsAfter (hpart ▸ List.mem_singleton_self part) with ⟨text, -, rfl⟩ | hnode
    · rfl
    · exact Node.parts_of_isSequence (apart _ hnode).1
  · rw [htree]
    rfl

/-- **The tree of pieces and more pieces is the trees of both, put together.** -/
theorem assemble_append {pieces more : List Piece}
    (apart : ∀ piece ∈ pieces, piece.StaysApart) (apart' : ∀ piece ∈ more, piece.StaysApart) :
    assemble (pieces ++ more) = (assemble pieces).join (assemble more) := by
  rw [assemble_eq_ofParts, partsAfter_append apart apart', ← parts_assemble apart, ← parts_assemble apart',
    Node.join]

end Piece

/-! ### Templates put together -/

namespace Node

section

variable {σ : Type} (sink : Sink σ) (values : Values) (number : Option Binary64)

theorem renderParts_parts (node : Node) :
    renderParts sink values node.parts number = node.renderUnder sink values number := by
  cases node <;> simp [parts, renderParts, renderUnder]

theorem renderUnder_ofParts (parts : List Node) :
    (ofParts parts).renderUnder sink values number = renderParts sink values parts number := by
  unfold ofParts
  split
  · simp [renderParts]
  · rw [renderUnder]

/-- Parts that are joined say what the ones say and then what the others say. -/
theorem renderParts_joinParts (parts others : List Node) :
    renderParts sink values (joinParts parts others) number = do
      let text ← renderParts sink values parts number
      let more ← renderParts sink values others number
      return text ++ more := by
  fun_induction joinParts parts others with
  | case1 others => simp only [renderParts, pure_bind, String.empty_append, bind_pure]
  | case2 text more others =>
      simp only [renderParts, renderUnder, pure_bind, bind_assoc, String.append_assoc,
        String.empty_append]
  | case3 others part rest hseam ih =>
      simp only [renderParts, ih, bind_assoc, pure_bind, String.append_assoc]

theorem renderUnder_join (node other : Node) :
    (node.join other).renderUnder sink values number = do
      let text ← node.renderUnder sink values number
      let more ← other.renderUnder sink values number
      return text ++ more := by
  rw [join, renderUnder_ofParts, renderParts_joinParts, renderParts_parts, renderParts_parts]

end

end Node

namespace Parser

variable {maxDepth : Nat} {first : String} {node : Node}

/-- Two templates that parse are read as the pieces of both. -/
theorem parseTokens_append_of_ok (hfirst : parseTokens maxDepth (lex first) = .ok node)
    {second : String} {other : Node} (hsecond : parseTokens maxDepth (lex second) = .ok other) :
    parseTokens maxDepth (lex (first ++ second)) = .ok (node.join other) ∧
      (node.join other).parts = Node.joinParts node.parts other.parts := by
  obtain ⟨pieces, apart, rfl, hwalk⟩ := exists_pieces hfirst (SequenceBuilder.empty false) rfl
  obtain ⟨more, apart', rfl, hwalk'⟩ := exists_pieces hsecond
    ((SequenceBuilder.empty false).write pieces) (by simp [SequenceBuilder.empty])
  have happart : ∀ piece ∈ pieces ++ more, piece.StaysApart :=
    List.forall_mem_append.mpr ⟨apart, apart'⟩
  have htree := Piece.assemble_append apart apart'
  constructor
  · obtain ⟨index, hrun⟩ := parseTokens_lex_append hwalk second
    rw [hrun, run_eq_ok_iff]
    refine ⟨_, hwalk', finish_eq_ok_iff.mpr ⟨rfl, ?_⟩⟩
    rw [← htree, ← SequenceBuilder.finish_write false, SequenceBuilder.write_append]
  · rw [← htree, Piece.parts_assemble happart, Piece.partsAfter_append apart apart',
      Piece.parts_assemble apart, Piece.parts_assemble apart']

/-- Behind a template that parses another fails where it fails alone. -/
theorem parseTokens_append_of_error (hfirst : parseTokens maxDepth (lex first) = .ok node)
    {second : String} {error : ParseError}
    (hsecond : parseTokens maxDepth (lex second) = .error error) :
    ∃ index, parseTokens maxDepth (lex (first ++ second))
      = .error { fault := error.fault, offset := first.length + error.offset,
                 tokenIndex := index } := by
  obtain ⟨pieces, -, -, hwalk⟩ := exists_pieces hfirst (SequenceBuilder.empty false) rfl
  obtain ⟨before, hfails, hoffset, -⟩ := parseTokens_eq_error_iff.mp hsecond
  have hbehind : Fails maxDepth ⟨(SequenceBuilder.empty false).write pieces, []⟩ error.fault
      (lex second) before := fails_behind hfails (by simp [SequenceBuilder.empty])
  obtain ⟨index, hrun⟩ := parseTokens_lex_append hwalk second
  refine ⟨index + before.length, ?_⟩
  rw [hrun, run_of_fails hbehind, hoffset]

end Parser

/-- **A template after another**, if both parse. -/
structure Composed (first second : String) (node other : Node) : Prop where
  parsed : parse (first ++ second) = .ok (node.join other)
  /-- The parts are those of the one and then those of the other; a literal that meets a
  literal is one with it. -/
  parts : (node.join other).parts = Node.joinParts node.parts other.parts
  /-- For all values, what is said and reported is that of the one and then that of the
  other. -/
  said : ∀ values : Values, ∃ text more diagnostics others,
    Says (fun _ sink => interpret sink values first) text diagnostics ∧
      Says (fun _ sink => interpret sink values second) more others ∧
        Says (fun _ sink => interpret sink values (first ++ second)) (text ++ more)
          (diagnostics ++ others)

theorem interpret_append {first second : String} {node other : Node}
    (hfirst : parse first = .ok node) (hsecond : parse second = .ok other)
    (happend : parse (first ++ second) = .ok (node.join other)) {σ : Type} (sink : Sink σ)
    (values : Values) :
    interpret sink values (first ++ second) = do
      let text ← interpret sink values first
      let more ← interpret sink values second
      return text ++ more := by
  unfold interpret
  rw [hfirst, hsecond, happend]
  exact node.renderUnder_join sink values none other

theorem composed_of_parse {first second : String} {node other : Node}
    (hfirst : parse first = .ok node) (hsecond : parse second = .ok other) :
    Composed first second node other := by
  obtain ⟨hparse, hparts⟩ := Parser.parseTokens_append_of_ok hfirst hsecond
  refine ⟨hparse, hparts, fun values => ?_⟩
  obtain ⟨text, diagnostics, hsays⟩ := speaks_interpret values first
  obtain ⟨more, others, hmore⟩ := speaks_interpret values second
  refine ⟨text, more, diagnostics, others, hsays, hmore, ?_⟩
  simp only [interpret_append hfirst hsecond hparse]
  exact hsays.append hmore

/--
**A template behind one that parses does what it does alone.**

If it parses, so do both together, and they say and report what the two do one after the
other.  If it does not, the fault is the same, as many characters later as there are before
it.
-/
theorem parse_append {first : String} {node : Node} (hfirst : parse first = .ok node)
    (second : String) :
    (∀ other, parse second = .ok other → Composed first second node other) ∧
      ∀ error, parse second = .error error →
        ∃ index, parse (first ++ second)
          = .error { fault := error.fault, offset := error.offset + first.length,
                     tokenIndex := index } := by
  refine ⟨fun other => composed_of_parse hfirst, fun error hsecond => ?_⟩
  rw [Nat.add_comm]
  exact Parser.parseTokens_append_of_error hfirst hsecond

/-- Quotes and texts that meet: a run that is closed and one that opens. -/
theorem parse_append_quotes :
    let first := "a \x7bn\x7d 'b'"
    let node := Node.sequence [.literal "a ", .placeholder "n", .literal " b"]
    parse first = .ok node ∧
      parse (first ++ "'c' d")
        = .ok (.sequence [.literal "a ", .placeholder "n", .literal " bc d"]) ∧
      Composed first "'c' d" node (.literal "c d") ∧
      ∃ index, parse (first ++ "'c' \x7d")
        = .error { fault := .unmatchedClosingBrace, offset := 4 + first.length,
                   tokenIndex := index } := by
  have h : parse "a \x7bn\x7d 'b'"
      = .ok (.sequence [.literal "a ", .placeholder "n", .literal " b"]) := rfl
  obtain ⟨hok, -⟩ := parse_append h "'c' d"
  obtain ⟨-, herror⟩ := parse_append h "'c' \x7d"
  have hfault : parse "'c' \x7d"
      = .error { fault := .unmatchedClosingBrace, offset := 4, tokenIndex := 4 } := rfl
  exact ⟨h, rfl, hok (.literal "c d") rfl, herror _ hfault⟩

end MessageTemplate
