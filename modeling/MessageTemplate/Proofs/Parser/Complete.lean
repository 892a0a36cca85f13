/-
The parser reads what the grammar derives.

A derivation drives the machine: from a machine in a sequence, the tokens of an item
lead back to the same machine with the item's piece written to it, so what is below on
the stack never matters.  One step opens at most one frame, and with as many frames
allowed as there are tokens the limit on depth is never met.
-/
import MessageTemplate.Proofs.Parser.Machine

namespace MessageTemplate

namespace Parser

variable {maxDepth : Nat}

/-! ### Inside braces -/

/-- An opening brace in a sequence opens a replacement. -/
theorem feed_leftBrace {parser : Parser} (hin : parser.InSequence)
    (hdepth : parser.stack.length < maxDepth) (rest : List Token) :
    parser.feed maxDepth (.leftBrace :: rest)
      = (parser.push (.replacement .variableName)).feed maxDepth rest := by
  refine feed_cons ?_ rest
  rw [step_of_inSequence hin, stepSequence]
  exact openFrame_of_lt hdepth _

/-- Blanks are passed over, and then a token moves the replacement on. -/
theorem feed_blank_cons {parser next : Parser} {stage : ReplacementStage} {token : Token}
    {blanks : List Token} (blank : Blank blanks)
    (h : parser.stepReplacement maxDepth stage token = .ok next) (rest : List Token) :
    (parser.push (.replacement stage)).feed maxDepth (blanks ++ token :: rest)
      = next.feed maxDepth rest := by
  induction blanks with
  | nil =>
      rw [← step_push_replacement] at h
      exact feed_cons h rest
  | cons first blanks ih =>
      obtain ⟨run, rfl⟩ := blank first (by simp)
      have hstep : (parser.push (.replacement stage)).step maxDepth (.spaces run)
          = .ok (parser.push (.replacement stage)) := by
        rw [step_push_replacement, stepReplacement]
      rw [List.cons_append, feed_cons hstep]
      exact ih fun t ht => blank t (by simp [ht])

theorem ofOperator?_operator (kind : BranchKind) :
    BranchKind.ofOperator? kind.operator = some kind := by
  cases kind <;> rfl

/-- The word of a kind is read as that kind. -/
theorem stepReplacement_operator (parser : Parser) (name : String) (kind : BranchKind) :
    parser.stepReplacement maxDepth (.operatorName name) (.text kind.operator)
      = .ok (parser.push (.replacement (.afterOperatorName name kind))) := by
  simp only [stepReplacement, ofOperator?_operator]

/-- A closing brace after some options closes the branch. -/
theorem stepReplacement_close (parser : Parser) {branch : Branch Node}
    (h : branch.options ≠ []) :
    parser.stepReplacement maxDepth (.options branch none) .rightBrace
      = .ok (parser.modifySequence (·.pushNode (.branch branch))) := by
  have hne : branch.options.isEmpty = false := by simpa using h
  simp [stepReplacement, hne]

/-- An opening brace after a key opens the content of the option. -/
theorem stepReplacement_content {parser : Parser} (hdepth : parser.stack.length + 1 < maxDepth)
    (branch : Branch Node) (key : String) :
    parser.stepReplacement maxDepth (.options branch (some key)) .leftBrace
      = .ok ((parser.push (.replacement (.options branch none))).push
          (.content key (SequenceBuilder.empty (branch.kind == .plural)))) := by
  rw [stepReplacement]
  exact openFrame_of_lt hdepth _

/-- The head of a branch leads to its options. -/
theorem feed_branchHead {parser : Parser} (hin : parser.InSequence)
    (hdepth : parser.stack.length < maxDepth) {b₁ b₂ b₃ b₄ : List Token} (blank₁ : Blank b₁)
    (blank₂ : Blank b₂) (blank₃ : Blank b₃) (blank₄ : Blank b₄) (name : String)
    (kind : BranchKind) (rest : List Token) :
    parser.feed maxDepth
        (.leftBrace :: (b₁ ++ .text name :: (b₂ ++ .comma :: (b₃ ++ .text kind.operator ::
          (b₄ ++ .comma :: rest)))))
      = (parser.push (.replacement (.options (Branch.empty name kind) none))).feed maxDepth
          rest := by
  rw [feed_leftBrace hin hdepth]
  refine (feed_blank_cons blank₁ rfl _).trans ?_
  refine (feed_blank_cons blank₂ rfl _).trans ?_
  refine (feed_blank_cons blank₃ (stepReplacement_operator parser name kind) _).trans ?_
  exact feed_blank_cons blank₄ rfl rest

/-- The head of an option leads to its content. -/
theorem feed_optionHead {parser : Parser} (hdepth : parser.stack.length + 1 < maxDepth)
    {b₁ b₂ : List Token} (blank₁ : Blank b₁) (blank₂ : Blank b₂) (branch : Branch Node)
    (key : String) (rest : List Token) :
    (parser.push (.replacement (.options branch none))).feed maxDepth
        (b₁ ++ .text key :: (b₂ ++ .leftBrace :: rest))
      = ((parser.push (.replacement (.options branch none))).push
          (.content key (SequenceBuilder.empty (branch.kind == .plural)))).feed maxDepth rest := by
  refine (feed_blank_cons blank₁ rfl _).trans ?_
  exact feed_blank_cons blank₂ (stepReplacement_content hdepth branch key) rest

/-- A content that is read is closed and goes into the branch below it. -/
theorem feed_option {parser : Parser} (hdepth : parser.stack.length + 1 < maxDepth)
    {b₁ b₂ tokens : List Token} (blank₁ : Blank b₁) (blank₂ : Blank b₂) (branch : Branch Node)
    (key : String) {pieces : List Piece}
    (content : ((parser.push (.replacement (.options branch none))).push
        (.content key (SequenceBuilder.empty (branch.kind == .plural)))).feed maxDepth tokens
      = .ok ((parser.push (.replacement (.options branch none))).push (.content key
          ((SequenceBuilder.empty (branch.kind == .plural)).write pieces))))
    (rest : List Token) :
    (parser.push (.replacement (.options branch none))).feed maxDepth
        (b₁ ++ .text key :: (b₂ ++ .leftBrace :: (tokens ++ .rightBrace :: rest)))
      = (parser.push (.replacement
          (.options (branch.insert key (Piece.assemble pieces)) none))).feed maxDepth rest := by
  rw [feed_optionHead hdepth blank₁ blank₂ branch key, feed_append content]
  refine feed_cons ?_ rest
  rw [← SequenceBuilder.finish_write (branch.kind == .plural)]
  rfl

/-! ### Inside quotes -/

/-- A token inside quotes is text, unless it is a quote. -/
theorem stepQuoted_of_ne {token : Token} (h : token ≠ .quote) (parser : Parser)
    (consumed : Bool) :
    parser.stepQuoted consumed token
      = (parser.modifySequence (·.pushText token.source)).push (.quoted true) := by
  cases token with
  | quote => exact absurd rfl h
  | _ => cases consumed <;> rfl

theorem pushText_pushText (builder : SequenceBuilder) (first second : String) :
    (builder.pushText first).pushText second = builder.pushText (first ++ second) := by
  simp [SequenceBuilder.pushText, String.append_assoc]

/-- A quote in a sequence opens a quoted run. -/
theorem feed_quote {parser : Parser} (hin : parser.InSequence)
    (hdepth : parser.stack.length < maxDepth) (rest : List Token) :
    parser.feed maxDepth (.quote :: rest)
      = (parser.push (.quoted false)).feed maxDepth rest := by
  refine feed_cons ?_ rest
  rw [step_of_inSequence hin, stepSequence]
  exact openFrame_of_lt hdepth _

/-- Quoted tokens are one text. -/
theorem feed_quoted {tokens : List Token} (nonempty : tokens ≠ [])
    (unquoted : Token.quote ∉ tokens) (parser : Parser) (consumed : Bool) :
    (parser.push (.quoted consumed)).feed maxDepth tokens
      = .ok ((parser.modifySequence (·.pushText (sources tokens))).push (.quoted true)) := by
  induction tokens generalizing parser consumed with
  | nil => exact absurd rfl nonempty
  | cons token rest ih =>
      have hne : token ≠ .quote := fun h => unquoted (by simp [h])
      have hstep := step_push_quoted parser consumed maxDepth token
      rw [stepQuoted_of_ne hne] at hstep
      rw [feed_cons hstep]
      by_cases hrest : rest = []
      · subst hrest
        simp [feed, sources]
      · rw [ih hrest (fun h => unquoted (by simp [h])), modifySequence_modifySequence]
        simp only [Function.comp_def, pushText_pushText, sources_cons]

/-! ### Derivations drive the machine -/

/-- A token that writes and opens nothing is one step. -/
theorem feed_single {parser next : Parser} (hin : parser.InSequence) {token : Token}
    (h : parser.stepSequence maxDepth token = .ok next) :
    parser.feed maxDepth [token] = .ok next := by
  rw [← step_of_inSequence hin] at h
  rw [feed_cons h, feed]

/-- A hash writes what it stands for at this level. -/
theorem feed_hash {parser : Parser} (hin : parser.InSequence) {inPlural : Bool}
    (hflag : parser.current.numberFields = inPlural) :
    parser.feed maxDepth [.hash]
      = .ok (parser.modifySequence
          (·.add (if inPlural then .node .numberField else .text "#"))) := by
  refine feed_single hin ?_
  rw [stepSequence, modifySequence_pushHash, hflag]

mutual

/-- **The tokens of a sequence write its pieces, and leave all else as it was.** -/
theorem feed_sequence {inPlural : Bool} {tokens : List Token} {pieces : List Piece}
    (h : Grammar.Sequence inPlural tokens pieces) (parser : Parser)
    (hin : parser.InSequence) (hflag : parser.current.numberFields = inPlural)
    (hdepth : parser.stack.length + tokens.length ≤ maxDepth) :
    parser.feed maxDepth tokens = .ok (parser.modifySequence (·.write pieces)) := by
  match h with
  | .nil => exact congrArg Except.ok (modifySequence_id parser).symm
  | @Grammar.Sequence.cons _ _ _ piece _ head tail =>
      rw [List.length_append] at hdepth
      rw [feed_append (feed_item head parser hin hflag (by omega))]
      have htail := feed_sequence tail (parser.modifySequence (·.add piece))
        (hin.modifySequence _)
        (by rw [hin.current_modifySequence, SequenceBuilder.add_numberFields, hflag])
        (by rw [length_modifySequence]; omega)
      rw [htail, modifySequence_modifySequence]
      rfl

/-- The tokens of an item write its piece. -/
theorem feed_item {inPlural : Bool} {tokens : List Token} {piece : Piece}
    (h : Grammar.Item inPlural tokens piece) (parser : Parser)
    (hin : parser.InSequence) (hflag : parser.current.numberFields = inPlural)
    (hdepth : parser.stack.length + tokens.length ≤ maxDepth) :
    parser.feed maxDepth tokens = .ok (parser.modifySequence (·.add piece)) := by
  match h with
  | .comma => exact feed_single hin rfl
  | .spaces run => exact feed_single hin rfl
  | .text run => exact feed_single hin rfl
  | .numberField => exact feed_hash hin hflag
  | .hash => exact feed_hash hin hflag
  | .doubledQuote =>
      rw [feed_quote hin (by simp at hdepth; omega), feed_cons (step_push_quoted ..)]
      rfl
  | .quoted nonempty unquoted =>
      rw [List.cons_append, feed_quote hin (by simp at hdepth; omega),
        feed_append (feed_quoted nonempty unquoted parser false),
        feed_cons (step_push_quoted ..)]
      rfl
  | .placeholder blank₁ blank₂ name =>
      simp only [List.append_assoc, List.cons_append]
      rw [feed_leftBrace hin (by simp at hdepth; omega)]
      refine (feed_blank_cons blank₁ rfl _).trans ?_
      exact feed_blank_cons blank₂ rfl []
  | .branch blank₁ blank₂ blank₃ blank₄ blank₅ name kind nonempty derived =>
      simp only [List.append_assoc, List.cons_append]
      simp only [List.length_append, List.length_cons, List.length_nil] at hdepth
      rw [feed_branchHead hin (by omega) blank₁ blank₂ blank₃ blank₄ name kind,
        feed_append (feed_options derived parser (Branch.empty name kind) rfl (by omega))]
      refine feed_blank_cons blank₅ (stepReplacement_close parser ?_) []
      exact insertAll_ne_nil _ nonempty

/-- The tokens of options insert them into the branch that is open. -/
theorem feed_options {inPlural : Bool} {tokens : List Token} {options : List (String × Node)}
    (h : Grammar.Options inPlural tokens options) (parser : Parser) (branch : Branch Node)
    (hkind : (branch.kind == .plural) = inPlural)
    (hdepth : parser.stack.length + 1 + tokens.length ≤ maxDepth) :
    (parser.push (.replacement (.options branch none))).feed maxDepth tokens
      = .ok (parser.push (.replacement (.options (branch.insertAll options) none))) := by
  match h with
  | .nil => rfl
  | @Grammar.Options.cons _ _ _ _ _ pieces _ blank₁ blank₂ key content tail =>
      simp only [List.append_assoc, List.cons_append]
      simp only [List.length_append, List.length_cons] at hdepth
      have hcontent := feed_sequence content
        ((parser.push (.replacement (.options branch none))).push
          (.content key (SequenceBuilder.empty (branch.kind == .plural))))
        (inSequence_push_content _ _ _) hkind (by simp only [length_push]; omega)
      rw [modifySequence_push_content] at hcontent
      rw [feed_option (by omega) blank₁ blank₂ branch key hcontent]
      exact feed_options tail parser (branch.insert key (Piece.assemble pieces)) hkind
        (by omega)

end

/-- **Tokens that derive a node are parsed to it, with as many frames allowed as there
are tokens.** -/
theorem parseTokens_of_template {tokens : List Token} {node : Node}
    (h : Grammar.Template tokens node) (hdepth : tokens.length ≤ maxDepth) :
    parseTokens maxDepth tokens = .ok node := by
  obtain ⟨pieces, derived, rfl⟩ := h
  have hfeed := feed_sequence derived start (by simp [InSequence, start]) rfl
    (by simpa [start] using hdepth)
  refine parseTokens_eq_ok_iff.mpr ⟨_, hfeed, ?_⟩
  exact finish_eq_ok_iff.mpr ⟨rfl, SequenceBuilder.finish_write false pieces⟩

end Parser

end MessageTemplate
