/-
The place of a parse error.

A place is told in four ways: by the index of a token, by characters, by bytes, and by line
and column.  Each is counted by a recursion of its own, so that they agree is something to
prove.  What ties them together is that the tokens before the one at fault make up a first
part of the template (`Fails.exists_after`), since the lexer loses nothing: the offset of the
error is the length of that part, and the other counts go over its characters.

Bytes are counted by where characters start.  The first start that is not among the
characters is the end of them, which is why an error at the end of the input needs no case of
its own (`startBytes_getD`).
-/
import MessageTemplate.ErrorReport
import MessageTemplate.Proofs.Lexer.Canonical
import MessageTemplate.Proofs.Parser.Failure
import MessageTemplate.Token.Row
import Mathlib.Data.List.DropRight

namespace MessageTemplate

/-! ### Counting -/

namespace ParseError

/-- The start of a character is the number of bytes before it, and after the last character
comes the end. -/
theorem startBytes_getD (chars : List Char) (first n : Nat) :
    (startBytes first chars)[n]?.getD (first + (String.ofList chars).utf8ByteSize)
      = first + (String.ofList (chars.take n)).utf8ByteSize := by
  induction chars generalizing first n with
  | nil => simp [startBytes]
  | cons c rest ih =>
      cases n with
      | zero => simp [startBytes]
      | succ n =>
          have hrest := ih (first + c.utf8Size) n
          simp only [startBytes, List.getElem?_cons_succ, List.take_succ_cons, String.ofList_cons,
            String.utf8ByteSize_append, String.utf8ByteSize_singleton] at hrest ⊢
          rw [← Nat.add_assoc, ← Nat.add_assoc]
          exact hrest

/-- The byte offset of an error is the number of bytes of the characters before it. -/
theorem byteOffset_eq (error : ParseError) (template : String) :
    error.byteOffset template
      = (String.ofList (template.toList.take error.offset)).utf8ByteSize := by
  have h := startBytes_getD template.toList 0 error.offset
  rw [String.ofList_toList, Nat.zero_add, Nat.zero_add] at h
  exact h

/-- Lines are counted by their breaks, and columns from the last break on. -/
theorem foldl_advance (chars : List Char) :
    chars.foldl advance (1, 1)
      = (1 + chars.count '\n', 1 + (chars.rtakeWhile fun c => c != '\n').length) := by
  induction chars using List.reverseRecOn with
  | nil => rfl
  | append_singleton chars c ih =>
      rw [List.foldl_append, ih, List.foldl_cons, List.foldl_nil, advance, List.count_append,
        List.rtakeWhile_concat]
      by_cases hbreak : c = '\n'
      · simp [hbreak, Nat.add_assoc]
      · simp [hbreak, Nat.add_assoc]

end ParseError

/-- The row of a token starts where the tokens before it end. -/
theorem Token.rowsFrom_getElem? (index offset : Nat) (before after : List Token)
    (token : Token) :
    (rowsFrom index offset (before ++ token :: after))[before.length]?
      = some { index := index + before.length
               offset := offset + (sources before).length
               kind := token.kindName
               text := token.source } := by
  induction before generalizing index offset with
  | nil => simp [rowsFrom, sources]
  | cons first before ih =>
      rw [List.cons_append, rowsFrom, List.length_cons, List.getElem?_cons_succ, ih,
        Parser.length_sources_cons]
      simp only [Option.some.injEq, Row.mk.injEq, and_true]
      omega

/-! ### The token at fault -/

namespace Parser

variable {maxDepth : Nat}

theorem openFrame_error {parser : Parser} {frame : Frame} {fault : ParseFault}
    (h : parser.openFrame maxDepth frame = .error fault) : fault = .nestingTooDeep maxDepth := by
  unfold openFrame at h
  split at h
  · exact (Except.error.inj h).symm
  · simp at h

/-- What can be wrong with a token inside braces. -/
theorem stepReplacement_fault {parser : Parser} {stage : ReplacementStage} {token : Token}
    {fault : ParseFault} (h : parser.stepReplacement maxDepth stage token = .error fault) :
    (∃ operator, fault = .invalidOperator operator) ∨ (∃ name, fault = .emptyBranch name) ∨
      fault = .nestingTooDeep maxDepth ∨ fault = .unexpectedToken token stage.state := by
  unfold stepReplacement at h
  split at h
  case h_5 =>
      split at h
      · simp at h
      · exact Or.inl ⟨_, (Except.error.inj h).symm⟩
  case h_8 => exact Or.inr (Or.inr (Or.inl (openFrame_error h)))
  case h_9 =>
      split at h
      · exact Or.inr (Or.inl ⟨_, (Except.error.inj h).symm⟩)
      · simp at h
  case h_10 => exact Or.inr (Or.inr (Or.inr (Except.error.inj h).symm))
  all_goals simp at h

/-- A token that is not expected is the token that was fed. -/
theorem stepReplacement_unexpected {parser : Parser} {stage : ReplacementStage}
    {token other : Token} {state : ParserState}
    (h : parser.stepReplacement maxDepth stage token = .error (.unexpectedToken other state)) :
    other = token ∧ state = stage.state := by
  obtain ⟨_, hfault⟩ | ⟨_, hfault⟩ | hfault | hfault := stepReplacement_fault h
  · simp at hfault
  · simp at hfault
  · simp at hfault
  · exact ParseFault.unexpectedToken.inj hfault

/-- In a sequence every token is expected. -/
theorem stepSequence_expected {parser : Parser} {token other : Token} {state : ParserState} :
    parser.stepSequence maxDepth token ≠ .error (.unexpectedToken other state) := by
  intro h
  cases token with
  | leftBrace => simpa using openFrame_error h
  | quote => simpa using openFrame_error h
  | rightBrace =>
      rw [stepSequence, closeContent] at h
      split at h <;> simp at h
  | _ => simp [stepSequence] at h

theorem step_unexpected {parser : Parser} {token other : Token} {state : ParserState}
    (h : parser.step maxDepth token = .error (.unexpectedToken other state)) :
    other = token := by
  unfold step at h
  split at h
  · simp at h
  · exact (stepReplacement_unexpected h).1
  · exact absurd h stepSequence_expected

/-- Tokens that fail go on after those that were taken, and a token that was not expected
is the next. -/
theorem Fails.exists_after {parser : Parser} {fault : ParseFault} {tokens before : List Token}
    (h : Fails maxDepth parser fault tokens before) :
    ∃ after, tokens = before ++ after ∧
      ∀ other state, fault = .unexpectedToken other state → after.head? = some other := by
  cases h with
  | @step _ after token _ _ refused =>
      refine ⟨token :: after, rfl, ?_⟩
      rintro other state rfl
      rw [step_unexpected refused, List.head?_cons]
  | finish _ unfinished =>
      refine ⟨[], (List.append_nil _).symm, ?_⟩
      rintro other state rfl
      simpa using finish_fault unfinished

end Parser

/-! ### One place -/

namespace ParseError

/-- What the report and the listing say of the token at fault. -/
structure MarksToken (error : ParseError) (template : String) (token : Token) : Prop where
  /-- As many bytes are marked as the token has. -/
  length : (error.report template).byteLength = token.source.utf8ByteSize
  /-- The bytes that are marked are those of the token. -/
  bytes : template.toByteArray.extract (error.report template).byteOffset
      ((error.report template).byteOffset + (error.report template).byteLength)
    = token.source.toByteArray
  row : (Token.rows (lex template))[error.tokenIndex]? = some
    { index := error.tokenIndex, offset := error.offset
      kind := token.kindName, text := token.source }
  unexpected : ∀ other state, error.fault = .unexpectedToken other state → other = token

/-- All that tells the place of an error in a template tells the same place. -/
structure IsOnePlace (error : ParseError) (template : String) : Prop where
  within : error.offset ≤ template.length
  afterTokens : error.offset = (((lex template).take error.tokenIndex).map Token.length).sum
  afterBytes : error.byteOffset template
    = (String.ofList (template.toList.take error.offset)).utf8ByteSize
  afterLines : error.lineColumn template
    = (1 + (template.toList.take error.offset).count '\n',
       1 + ((template.toList.take error.offset).rtakeWhile fun c => c != '\n').length)
  atToken : ∀ token, (lex template)[error.tokenIndex]? = some token →
    error.MarksToken template token
  /-- At the end of the input the mark is empty. -/
  atEnd : (lex template)[error.tokenIndex]? = none →
    (error.report template).byteLength = 0 ∧
      (error.report template).byteOffset = template.utf8ByteSize

/-- The bytes of the middle of a text. -/
theorem extract_middle (before middle after : String) :
    (before ++ middle ++ after).toByteArray.extract before.utf8ByteSize
      (before.utf8ByteSize + middle.utf8ByteSize) = middle.toByteArray := by
  rw [← String.size_toByteArray, ← String.size_toByteArray, String.toByteArray_append,
    String.toByteArray_append, ← ByteArray.size_append, ByteArray.extract_append_size_left,
    ByteArray.extract_append_eq_right rfl (by rw [ByteArray.size_append])]

variable {error : ParseError} {template : String} {before after : List Token}

theorem take_offset (htokens : lex template = before ++ after)
    (hoffset : error.offset = (sources before).length) :
    template.toList.take error.offset = (sources before).toList := by
  have htemplate : template = sources before ++ sources after := by
    rw [← sources_append, ← htokens, sources_lex]
  rw [hoffset, ← String.length_toList, htemplate, String.toList_append, List.take_left]

theorem byteOffset_of_tokens (htokens : lex template = before ++ after)
    (hoffset : error.offset = (sources before).length) :
    error.byteOffset template = (sources before).utf8ByteSize := by
  rw [byteOffset_eq, take_offset htokens hoffset, String.ofList_toList]

theorem marksToken {token : Token} (htokens : lex template = before ++ token :: after)
    (hoffset : error.offset = (sources before).length)
    (hindex : error.tokenIndex = before.length)
    (hunexpected : ∀ other state, error.fault = .unexpectedToken other state → other = token) :
    error.MarksToken template token := by
  have hbytes : (error.report template).byteOffset = (sources before).utf8ByteSize :=
    byteOffset_of_tokens htokens hoffset
  have hlength : (error.report template).byteLength = token.source.utf8ByteSize := by
    simp [report, htokens, hindex]
  have htemplate : template = sources before ++ token.source ++ sources after := by
    rw [String.append_assoc, ← sources_cons, ← sources_append, ← htokens, sources_lex]
  refine ⟨hlength, ?_, ?_, hunexpected⟩
  · rw [hbytes, hlength]
    conv_lhs => rw [htemplate]
    exact extract_middle _ _ _
  · rw [htokens, hindex, hoffset, Token.rows, Token.rowsFrom_getElem?, Nat.zero_add,
      Nat.zero_add]

end ParseError

/--
**All views of an error denote one place.**

The index, the offset, the bytes, and the line and column of a parse error all count what
stands before one token of the template, which is the token that the report marks, the row of
that index lists, and the fault names if it names one.  At the end of the input the mark is
empty.
-/
theorem parseTokens_error_isOnePlace {maxDepth : Nat} {template : String} {error : ParseError}
    (h : parseTokens maxDepth (lex template) = .error error) : error.IsOnePlace template := by
  obtain ⟨before, hfails, hoffset, hindex⟩ := Parser.parseTokens_eq_error_iff.mp h
  obtain ⟨after, htokens, hunexpected⟩ := hfails.exists_after
  refine ⟨?_, ?_, error.byteOffset_eq template, ParseError.foldl_advance _, ?_, ?_⟩
  · rw [hoffset, ← sources_lex template, htokens, sources_append, String.length_append]
    omega
  · rw [hoffset, htokens, hindex, List.take_left, length_sources]
  · intro token htoken
    obtain ⟨rest, rfl⟩ : ∃ rest, after = token :: rest := by
      rw [htokens, hindex, List.getElem?_append_right (Nat.le_refl _), Nat.sub_self] at htoken
      cases after with
      | nil => simp at htoken
      | cons first rest => exact ⟨rest, by simpa using htoken⟩
    refine ParseError.marksToken htokens hoffset hindex fun other state hfault => ?_
    simpa using (hunexpected other state hfault).symm
  · intro hend
    have hnil : after = [] := by
      rw [htokens, hindex, List.getElem?_eq_none_iff, List.length_append] at hend
      exact List.eq_nil_of_length_eq_zero (by omega)
    refine ⟨by simp [ParseError.report, hend], ?_⟩
    have hall : sources before = template := by
      rw [← sources_lex template, htokens, hnil, List.append_nil]
    exact (ParseError.byteOffset_of_tokens htokens hoffset).trans (by rw [hall])

/-- A second name after characters of two and of three bytes and a line break. -/
theorem parseTokens_error_isOnePlace_multibyte :
    let template := "ä\n€\x7ba b\x7d"
    let error : ParseError :=
      { fault := .unexpectedToken (.text "b") .afterVariableName, offset := 6, tokenIndex := 4 }
    parseTokens 1 (lex template) = .error error ∧ error.IsOnePlace template ∧
      error.byteOffset template = 9 ∧ error.lineColumn template = (2, 5) := by
  have h : parseTokens 1 (lex "ä\n€\x7ba b\x7d") = .error
      { fault := .unexpectedToken (.text "b") .afterVariableName, offset := 6,
        tokenIndex := 4 } := rfl
  exact ⟨h, parseTokens_error_isOnePlace h, by decide, by decide⟩

end MessageTemplate
