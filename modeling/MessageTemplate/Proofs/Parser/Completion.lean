/-
Errors come at the earliest token.

Whatever the machine has been led to can be completed.  The completion is read off what
was read so far: a replacement can be completed from each of its stages, by a name, an
operator or one more option (`Progress.closes`), a quoted run by a quote, and the content
of an option by its two closing braces.  Each of these turns what is open into an item
of the sequence below, so the induction is on the number of open frames
(`Reads.completes`).

On the other side a refused token stays refused, whatever follows and whatever the limit
on depth.  So the token at fault is the first one after which no template is left, unless
it is the limit that refused it.
-/
import MessageTemplate.Proofs.Parser.Failure
import MessageTemplate.Proofs.Parser.Sound

namespace MessageTemplate

open Grammar (Sequence Item)

namespace Parser

variable {maxDepth : Nat}

/-! ### Replacements can be completed -/

/-- Tokens after an opening brace that more tokens complete to an item. -/
def Closes (inner : List Token) : Prop :=
  ∃ (closing : List Token) (piece : Piece), ∀ inPlural : Bool,
    Item inPlural (.leftBrace :: inner ++ closing) piece

theorem Closes.of_append {inner more : List Token} (h : Closes (inner ++ more)) :
    Closes inner := by
  obtain ⟨closing, piece, item⟩ := h
  refine ⟨more ++ closing, piece, fun inPlural => ?_⟩
  simpa using item inPlural

namespace Progress

theorem closes_afterVariableName {inner : List Token} {name : String}
    (h : Progress inner (.afterVariableName name)) : Closes inner :=
  ⟨[.rightBrace], .node (.placeholder name), fun _ => h.placeholder⟩

/-- After a key, an empty content completes the branch. -/
theorem closes_key {inner : List Token} {branch : Branch Node} {key : String}
    (h : Progress inner (.options branch (some key))) : Closes inner := by
  have hfilled := h.content Sequence.nil Blank.nil
  have hclosed : Closes (inner ++ [.leftBrace] ++ [.rightBrace]) :=
    ⟨[.rightBrace], _, fun _ => hfilled.branch (insertOption_ne_nil key _ branch.options)⟩
  exact hclosed.of_append.of_append

theorem closes_options {inner : List Token} {branch : Branch Node}
    (h : Progress inner (.options branch none)) : Closes inner :=
  (h.key otherKey Blank.nil).closes_key.of_append

theorem closes_afterOperatorName {inner : List Token} {name : String} {kind : BranchKind}
    (h : Progress inner (.afterOperatorName name kind)) : Closes inner :=
  (h.options Blank.nil).closes_options.of_append

/-- **A replacement can be completed from every stage.** -/
theorem closes {inner : List Token} {stage : ReplacementStage} (h : Progress inner stage) :
    Closes inner := by
  cases stage with
  | variableName => exact (h.name otherKey Blank.nil).closes_afterVariableName.of_append
  | afterVariableName name => exact h.closes_afterVariableName
  | operatorName name =>
      exact (h.operator .select Blank.nil).closes_afterOperatorName.of_append
  | afterOperatorName name kind => exact h.closes_afterOperatorName
  | options branch pendingKey =>
      cases pendingKey with
      | none => exact h.closes_options
      | some key => exact h.closes_key

end Progress

/-! ### Machines can be completed -/

/-- Tokens that more tokens complete to a template. -/
def Completes (tokens : List Token) : Prop :=
  ∃ (suffix : List Token) (node : Node), Grammar.Template (tokens ++ suffix) node

theorem Completes.of_append {tokens more : List Token} (h : Completes (tokens ++ more)) :
    Completes tokens := by
  obtain ⟨suffix, node, template⟩ := h
  exact ⟨more ++ suffix, node, by rwa [← List.append_assoc]⟩

/-- **What the machine has read can be completed.** -/
theorem Reads.completes {tokens : List Token} {parser : Parser} (h : Reads tokens parser) :
    Completes tokens := by
  match h with
  | .root sequence => exact ⟨[], _, _, by simpa using sequence, rfl⟩
  | @Reads.content outerTokens head inner below _ _ _ outer hin progress sequence =>
      obtain ⟨closing, piece, item⟩ := (progress.content sequence Blank.nil).closes
      have hclosed : Completes (outerTokens ++ .leftBrace :: head ++ .leftBrace :: inner ++
          .rightBrace :: closing) := by
        simpa using (outer.item hin (item _)).completes
      exact hclosed.of_append
  | @Reads.replacement outerTokens inner below _ outer hin progress =>
      obtain ⟨closing, piece, item⟩ := progress.closes
      have hclosed : Completes (outerTokens ++ .leftBrace :: inner ++ closing) := by
        simpa using (outer.item hin (item _)).completes
      exact hclosed.of_append
  | @Reads.quote outerTokens below outer hin =>
      have hclosed : Completes (outerTokens ++ [.quote] ++ [.quote]) := by
        simpa using (outer.item hin Item.doubledQuote).completes
      exact hclosed.of_append
  | @Reads.quoted outerTokens inner below outer hin nonempty unquoted =>
      have hclosed : Completes (outerTokens ++ .quote :: inner ++ [.quote]) := by
        simpa using (outer.item hin (Item.quoted nonempty unquoted)).completes
      exact hclosed.of_append
termination_by parser.stack.length
decreasing_by
  all_goals
    simp only [length_modifySequence, length_push]
    omega

/-- Tokens that the machine walks over can be completed. -/
theorem completes_of_feed {tokens : List Token} {last : Parser}
    (h : start.feed maxDepth tokens = .ok last) : Completes tokens :=
  (feed_reads (Reads.root Sequence.nil) h).completes

/-! ### The earliest token -/

/-- Tokens that more tokens complete to a template that is parsed, under some limit above
the given one. -/
def ParsesOn (maxDepth : Nat) (tokens : List Token) : Prop :=
  ∃ (suffix : List Token) (larger : Nat) (node : Node), maxDepth < larger ∧
    parseTokens larger (tokens ++ suffix) = .ok node

theorem Completes.parsesOn {tokens : List Token} (h : Completes tokens) (maxDepth : Nat) :
    ParsesOn maxDepth tokens := by
  obtain ⟨suffix, node, template⟩ := h
  refine ⟨suffix, maxDepth + 1 + (tokens ++ suffix).length, node, by omega, ?_⟩
  exact parseTokens_of_template template (by omega)

/-- Lists that agree with some tokens on those before the one at an index and on this
one too. -/
def AgreeThrough (index : Nat) (tokens others : List Token) : Prop :=
  others.take (index + 1) = tokens.take (index + 1)

theorem take_through (before after : List Token) (token : Token) :
    (before ++ token :: after).take (before.length + 1) = before ++ [token] := by
  rw [List.take_length_add_append]
  rfl

/-- Tokens with the same beginning go on after it. -/
theorem AgreeThrough.exists_append {before after others : List Token} {token : Token}
    (h : AgreeThrough before.length (before ++ token :: after) others) :
    ∃ rest, others = before ++ token :: rest := by
  refine ⟨others.drop (before.length + 1), ?_⟩
  calc others
      = others.take (before.length + 1) ++ others.drop (before.length + 1) :=
        (List.take_append_drop _ _).symm
    _ = before ++ token :: others.drop (before.length + 1) := by
        rw [h, take_through, List.append_assoc, List.singleton_append]

/-- **An error that comes as early as it can.** -/
structure IsEarliest (maxDepth : Nat) (tokens : List Token) (error : ParseError) : Prop where
  within : error.tokenIndex ≤ tokens.length
  /-- What follows the token at fault does not change the error. -/
  settled : error.tokenIndex < tokens.length →
    ∀ others, AgreeThrough error.tokenIndex tokens others →
      parseTokens maxDepth others = .error error
  /-- No template begins with the tokens through the one at fault. -/
  final : error.tokenIndex < tokens.length → AboutTokens error.fault →
    ∀ others, AgreeThrough error.tokenIndex tokens others →
      ∀ limit node, parseTokens limit others ≠ .ok node
  /-- Some template begins with the tokens before the one at fault. -/
  viable : error.tokenIndex < tokens.length → AboutTokens error.fault →
    ParsesOn maxDepth (tokens.take error.tokenIndex)
  /-- If it is the limit that refused the token, some template begins with the tokens
  through this one. -/
  deeper : error.tokenIndex < tokens.length →
    (∃ limit, error.fault = .nestingTooDeep limit) →
      ParsesOn maxDepth (tokens.take (error.tokenIndex + 1))
  /-- At the end of the tokens something is open, and some template goes on from there. -/
  atEnd : error.tokenIndex = tokens.length →
    (error.fault = .unclosedBrace ∨ error.fault = .unclosedQuote) ∧ ParsesOn maxDepth tokens

theorem isEarliest_of_step {before after : List Token} {token : Token} {last : Parser}
    {error : ParseError} (walk : start.feed maxDepth before = .ok last)
    (refused : last.step maxDepth token = .error error.fault)
    (hoffset : error.offset = (sources before).length)
    (hindex : error.tokenIndex = before.length) :
    IsEarliest maxDepth (before ++ token :: after) error where
  within := by simp [hindex]
  settled := by
    intro _ others agree
    rw [hindex] at agree
    obtain ⟨rest, rfl⟩ := agree.exists_append
    exact parseTokens_eq_error_iff.mpr ⟨before, Fails.step walk refused, hoffset, hindex⟩
  final := by
    intro _ about others agree limit node hparse
    rw [hindex] at agree
    obtain ⟨rest, rfl⟩ := agree.exists_append
    obtain ⟨other, hfeed, -⟩ := parseTokens_eq_ok_iff.mp hparse
    exact feed_ne_ok walk refused about limit rest other hfeed
  viable := by
    intro _ _
    rw [hindex, List.take_left]
    exact (completes_of_feed walk).parsesOn maxDepth
  deeper := by
    rintro _ ⟨limit, hdeep⟩
    rw [hdeep] at refused
    obtain ⟨next, hstep⟩ := exists_step_of_nestingTooDeep refused
    have hreads := step_reads (feed_reads (Reads.root Sequence.nil) walk)
      (hstep _ (Nat.lt_succ_self _))
    rw [hindex, take_through]
    exact hreads.completes.parsesOn maxDepth
  atEnd := by
    intro hend
    simp [hindex] at hend

theorem isEarliest_of_finish {tokens : List Token} {last : Parser} {error : ParseError}
    (walk : start.feed maxDepth tokens = .ok last)
    (unfinished : last.finish = .error error.fault)
    (hindex : error.tokenIndex = tokens.length) : IsEarliest maxDepth tokens error where
  within := by omega
  settled := by omega
  final := by omega
  viable := by omega
  deeper := by omega
  atEnd := fun _ => ⟨finish_fault unfinished, (completes_of_feed walk).parsesOn maxDepth⟩

/--
**Parse errors come at the earliest token.**

The error depends only on the tokens through the one at fault; before it, a template
could still be completed, and with it none, whatever the limit on depth, unless the
limit alone refused it.  At the end of the input a template can always be completed.
-/
theorem parseTokens_error_isEarliest {tokens : List Token} {error : ParseError}
    (h : parseTokens maxDepth tokens = .error error) : IsEarliest maxDepth tokens error := by
  obtain ⟨before, hfails, hoffset, hindex⟩ := parseTokens_eq_error_iff.mp h
  cases hfails with
  | step walk refused => exact isEarliest_of_step walk refused hoffset hindex
  | finish walk unfinished => exact isEarliest_of_finish walk unfinished hindex

/-- A key in the place of a content, inside the content of another option. -/
theorem parseTokens_error_isEarliest_nested :
    let tokens := lex "\x7bn,plural,one\x7b\x7bm,select,a b\x7d\x7d"
    let error : ParseError :=
      { fault := .unexpectedToken (.text "b") .afterOptionKey, offset := 26, tokenIndex := 14 }
    parseTokens 3 tokens = .error error ∧ IsEarliest 3 tokens error := by
  intro tokens error
  have h : parseTokens 3 tokens = .error error := rfl
  exact ⟨h, parseTokens_error_isEarliest h⟩

end Parser

end MessageTemplate
