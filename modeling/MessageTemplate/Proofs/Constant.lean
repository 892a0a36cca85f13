/-
Templates that always say the same.

Two tests tell that a template needs no values: it is nothing but literals, or it reads no
value.  Trees can pass the second and not the first, since a number field is no literal and
reads no value by itself.  In a tree that is parsed a number field stands inside a branch,
and a branch reads a value, so the two tests agree there.

There is a third test, which is to render.  Without any values, everything outside the
contents of branches is visited, and each placeholder and each branch there reports that its
value is missing.  So nothing is reported only if there is nothing that reads a value.
-/
import MessageTemplate.Proofs.Compiled.Escaping
import MessageTemplate.Proofs.NormalForm
import MessageTemplate.Proofs.Storage
import MessageTemplate.Proofs.Visits

namespace MessageTemplate

open Visit (reportsOf)

namespace Node

/-! ### Nothing but literals, and nothing that reads a value -/

/-- A tree that is nothing but literals reads no value. -/
theorem occurringNames_of_literalText (node : Node) : ∀ {text : String},
    node.literalText = some text → node.occurringNames = [] := by
  induction node using treeInduction with
  | sequence parts ih =>
      intro text h
      rw [literalText] at h
      rw [occurringNames]
      induction parts generalizing text with
      | nil => rfl
      | cons part rest ihRest =>
          rw [List.forall_mem_cons] at ih
          obtain ⟨first, texts, hfirst, htexts, -⟩ := literalTexts_cons h
          rw [partNames, ih.1 hfirst, ihRest ih.2 htexts, List.append_nil]
  | literal text => exact fun _ => rfl
  | numberField => simp [literalText]
  | placeholder name => simp [literalText]
  | branch choice => simp [literalText]

/-- **In normal form, a tree that reads no value is nothing but literals**: a number field
could stand only in a branch. -/
theorem exists_literalText (node : Node) : node.Normal false → node.occurringNames = [] →
    ∃ text, node.literalText = some text := by
  induction node using treeInduction with
  | sequence parts ih =>
      intro normal hnames
      have hparts := normal.of_mem_parts
      -- Fewer parts need not be in normal form together, so only theirs is kept.
      clear normal
      rw [occurringNames] at hnames
      rw [literalText]
      induction parts with
      | nil => exact ⟨"", rfl⟩
      | cons part rest ihRest =>
          rw [List.forall_mem_cons] at ih hparts
          rw [partNames, List.append_eq_nil_iff] at hnames
          obtain ⟨first, hfirst⟩ := ih.1 hparts.1 hnames.1
          obtain ⟨texts, htexts⟩ := ihRest ih.2 hnames.2 hparts.2
          exact ⟨first ++ texts, by simp [literalTexts, hfirst, htexts]⟩
  | literal text => exact fun _ _ => ⟨text, rfl⟩
  | numberField => exact fun normal _ => by simpa using normal.inPlural_of_numberField
  | placeholder name => simp [occurringNames]
  | branch choice => simp [occurringNames]

/-! ### Nothing that is reported without values -/

/-- **Without values, what reads a value reports it as missing.** -/
theorem reportsOf_visits_empty (node : Node) : ∀ (around : List (Branch Node))
    (number : Option Binary64),
      reportsOf ∅ (node.visits ∅ around number) = [] ↔ node.occurringNames = [] := by
  induction node using treeInduction with
  | sequence parts ih =>
      intro around number
      rw [visits, occurringNames, Visit.reportsOf_cons]
      -- The sequence itself reports nothing.
      change reportsOf ∅ (partVisits ∅ parts around number) = [] ↔ _
      induction parts with
      | nil => exact iff_of_true rfl rfl
      | cons part rest ihRest =>
          rw [List.forall_mem_cons] at ih
          rw [partVisits, partNames, Visit.reportsOf_append, List.append_eq_nil_iff,
            List.append_eq_nil_iff, ih.1 around number, ihRest ih.2]
  | literal text => exact fun _ _ => iff_of_true rfl rfl
  | numberField => exact fun _ _ => iff_of_true rfl rfl
  | placeholder name =>
      intro around number
      have hreport : reportsOf ∅ ((placeholder name).visits ∅ around number)
          = [.missingValue name] := by
        simp [visits, reportsOf, Visit.report?]
      simp [hreport, occurringNames]
  | branch choice _ =>
      intro around number
      have hproblem : choice.problem? ∅ = some (.missingValue choice.name) := by
        simp [Branch.problem?]
      rw [visits_branch, Visit.reportsOf_cons]
      simp [Visit.report?, hproblem, occurringNames]

end Node

/-! ### Code -/

/-- The code of a tree that is nothing but literals is its text. -/
theorem Code.flatten_of_literalText (names : CodeNames) (number : Option String) (node : Node) :
    ∀ {text : String}, node.literalText = some text →
      flatten names number node = Flat.ofText text := by
  induction node using Node.treeInduction with
  | sequence parts ih =>
      intro text h
      rw [Node.literalText] at h
      rw [flatten]
      induction parts generalizing text with
      | nil =>
          obtain rfl := Option.some.inj h
          rfl
      | cons part rest ihRest =>
          rw [List.forall_mem_cons] at ih
          obtain ⟨first, texts, hfirst, htexts, rfl⟩ := Node.literalTexts_cons h
          rw [flattenParts, ih.1 hfirst, ihRest ih.2 htexts]
          rfl
  | literal text =>
      intro other h
      obtain rfl := Option.some.inj h
      rfl
  | numberField => simp [Node.literalText]
  | placeholder name => simp [Node.literalText]
  | branch choice => simp [Node.literalText]

/-- The source of a tree that is nothing but literals is one line. -/
theorem Code.source_of_literalText {node : Node} {text : String}
    (h : node.literalText = some text) (names : CodeNames) (style : SourceStyle) (level : Nat) :
    (node.compile names).source style level
      = [style.indentation level ++ "String::from(" ++ SourceStyle.literal text ++ ")"] := by
  have hnames : node.occurringNames = [] := node.occurringNames_of_literalText h
  obtain ⟨hbranch, -⟩ := @flatten_of_occurringNames names node hnames
  rw [Node.compile, ofNode_of_containsBranch none hbranch, flatten_of_literalText names none node h]
  simp [source, lines, wrapLines, wrapLast, Flat.source, Flat.ofText, Flat.isText,
    String.append_assoc]

/-! ### Templates -/

/-- A tree that says one text, whatever the values are. -/
structure Node.IsAlways (node : Node) (text : String) : Prop where
  /-- Rendering gives the text and reports nothing. -/
  rendered : ∀ (values : Values) {σ : Type} (sink : Sink σ), node.render sink values = pure text
  /-- The source of its code is one line, and the literal in it is read as the text. -/
  compiled : ∀ (names : CodeNames) (style : SourceStyle) (level : Nat), ∃ literal,
    (node.compile names).source style level
        = [style.indentation level ++ "String::from(" ++ literal ++ ")"] ∧
      Source.stringValue? literal = some text

/-- A tree that is nothing but literals says its text. -/
theorem Node.isAlways_of_literalText {node : Node} {text : String}
    (h : node.literalText = some text) : node.IsAlways text where
  rendered := fun values _ sink => node.renderUnder_of_literalText sink values none h
  compiled := fun names style level =>
    ⟨SourceStyle.literal text, Code.source_of_literalText h names style level,
      Literal.stringValue?_escape text⟩

/--
**A parsed template is nothing but literals exactly if it reads no value, and exactly if
nothing is reported when it is rendered without values.**

Then it says its text for all values, and so does its code.
-/
theorem parse_constant {template : String} {node : Node} (h : parse template = .ok node) :
    [∃ text, node.literalText = some text, node.valueNames = [],
        ((node.render Sink.keepAll ∅).run []).2 = []].TFAE ∧
      ∀ text, node.literalText = some text → node.IsAlways text := by
  obtain ⟨pieces, sequence, hnode⟩ := Parser.template_of_parseTokens h
  have normal : node.Normal false := by
    rw [hnode]
    exact Piece.assemble_normal (sequence.normal fun _ => isWord_of_mem_lex)
  refine ⟨?_, fun text => Node.isAlways_of_literalText⟩
  have hkept : ((node.render Sink.keepAll ∅).run []).2
      = reportsOf ∅ (node.visits ∅ [] none) := by
    rw [Node.render, node.says_visits Sink.keepAll [] none, Sink.reportAll_keepAll,
      List.nil_append]
  tfae_have 1 → 2 := by
    rintro ⟨text, htext⟩
    exact node.valueNames_eq_nil_iff.mpr (node.occurringNames_of_literalText htext)
  tfae_have 2 → 1 := fun hnames =>
    node.exists_literalText normal (node.valueNames_eq_nil_iff.mp hnames)
  tfae_have 2 ↔ 3 := by
    rw [hkept, node.valueNames_eq_nil_iff, node.reportsOf_visits_empty]
  tfae_finish

/-- Syntax in quotes, a hash without a number, and characters that are escaped in source. -/
theorem parse_constant_quoted :
    let text := "\x7bn\x7d #, it's \"\x7b\x7d\\"
    parse "'\x7bn\x7d' #, it''s '\"\x7b\x7d\\'" = .ok (.literal text) ∧
      (Node.literal text).valueNames = [] ∧ (Node.literal text).IsAlways text := by
  intro text
  have h : parse "'\x7bn\x7d' #, it''s '\"\x7b\x7d\\'" = .ok (.literal text) := rfl
  obtain ⟨tests, always⟩ := parse_constant h
  have hnames : (∃ text', (Node.literal text).literalText = some text')
      ↔ (Node.literal text).valueNames = [] := tests.out 0 1
  exact ⟨h, hnames.mp ⟨text, rfl⟩, always text rfl⟩

end MessageTemplate
