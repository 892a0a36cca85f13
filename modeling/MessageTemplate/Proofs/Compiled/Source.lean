/-
The source of a compiled template reads back as what it should say.

The result is put together from three others: the lines scan to the lexemes of the code,
whatever characters the template has (`Code.scan?_source`); the code is what its lexemes
stand for (`Code.ofLexemes?_lexemes`); and the code puts out what the tree does
(`Code.ofNode_outline`).  The first two ask for identifiers that are identifiers, and
code has only those that it was compiled with.
-/
import MessageTemplate.Proofs.Compiled.Layout
import MessageTemplate.Proofs.Compiled.Outline
import MessageTemplate.Proofs.Compiled.Reading
import MessageTemplate.Proofs.Compiled.Uses

namespace MessageTemplate

open Source

/-- Names of which each is an identifier. -/
structure CodeNames.AreIdentifiers (names : CodeNames) : Prop where
  values : IsIdentifier names.values
  sink : IsIdentifier names.sink
  buffer : IsIdentifier names.buffer

theorem CodeNames.AreIdentifiers.of_mem_all {names : CodeNames} (h : names.AreIdentifiers) :
    ∀ name ∈ names.all, IsIdentifier name := by
  simp [CodeNames.all, h.values, h.sink, h.buffer]

/-- **A style of Rust**: the path is a path, with the given lexemes, and lines are
indented by spaces and tabs. -/
structure SourceStyle.IsProper (style : SourceStyle) (items : List Lexeme) : Prop where
  path : IsPath style.path.toList items
  indent : IsIndent style.indent.toList

/-- All of a path is read as a path. -/
theorem Source.IsPath.isOfPath {text : List Char} {items : List Lexeme} (h : IsPath text items) :
    ∀ l ∈ items, Code.isOfPath l = true := by
  induction h with
  | name => simp [Code.isOfPath]
  | rooted => simp [Source.path, Code.isOfPath]
  | member _ _ _ _ ih =>
      rw [List.forall_mem_append]
      exact ⟨ih, by simp [Source.path, Code.isOfPath]⟩

/-- **Lines that are one expression of code for a template**, with the items of a module
and with the given names. -/
structure ReadsBack (lines : List String) (items : List Lexeme) (names : CodeNames)
    (node : Node) : Prop where
  /-- No line has a line break inside it. -/
  unbroken : ∀ line ∈ lines, '\n' ∉ line.toList ∧ '\r' ∉ line.toList
  /-- With line breaks between them, the lines can be scanned, delimiters match, and the
  lexemes are those of one expression and of nothing else.  It is the compiled template,
  it has no identifiers but the names, and it puts out every part of the template once and
  in its place. -/
  reads : ∃ lexemes code, scan? ("\n".intercalate lines) = some lexemes ∧
    isBalanced lexemes = true ∧ Code.ofLexemes? items lexemes = some code ∧
    code = node.compile names ∧ (∀ name ∈ code.identifiers, name ∈ names.all) ∧
    code.outline = node.outline none

/--
**The source of a compiled template reads back as the template.**

This holds for every tree, whatever characters its texts, names and keys have, at every
level of indentation.
-/
theorem source_readsBack (node : Node) (names : CodeNames) (style : SourceStyle)
    (items : List Lexeme) (level : Nat) (identifiers : names.AreIdentifiers)
    (proper : style.IsProper items) :
    ReadsBack ((node.compile names).source style level) items names node := by
  have huses : ∀ name ∈ (node.compile names).identifiers, name ∈ names.all :=
    Code.ofNode_identifiers names node none
  have hidentifiers : ∀ name ∈ (node.compile names).identifiers, IsIdentifier name :=
    fun name hname => identifiers.of_mem_all name (huses name hname)
  refine ⟨fun line hline => ?_, (node.compile names).lexemes items, node.compile names, ?_⟩
  · have hlaid := Code.source_laid proper.path proper.indent hidentifiers level
    exact ⟨fun hmem => (hlaid.unbroken line hline _ hmem).1 rfl,
      fun hmem => (hlaid.unbroken line hline _ hmem).2 rfl⟩
  · have hneutral := (node.compile names).lexemes_neutral proper.path.isNeutral
    exact ⟨Code.scan?_source proper.path proper.indent hidentifiers level, hneutral.isBalanced,
      Code.ofLexemes?_lexemes proper.path.isOfPath fun name hname => (hidentifiers name hname).2,
      rfl, huses, Code.ofNode_outline names node none⟩

/-- Quotes, backslashes, braces and line breaks in every place where text can stand, with a
raw identifier, blanks in the path and a select branch inside a plural branch. -/
theorem source_readsBack_nested :
    let names : CodeNames := { values := "r#in", sink := "_sink", buffer := "out" }
    let style : SourceStyle := { path := "crate ::\truntime", indent := "\t " }
    let items : List Lexeme := .word "crate" :: path ["runtime"]
    let inner : Node := .branch
      { name := "b\\", kind := .select, options := [("\r\u0085", .sequence [.numberField])] }
    let outer : Node := .sequence
      [.literal "\"\n\x7b", .numberField, .branch
        { name := "a\"", kind := .plural, options :=
            [("=\"1\"", .sequence [.literal "\x7b\x7d", .numberField, .placeholder "\x7d"]),
             ("other", inner)] }]
    names.AreIdentifiers ∧ style.IsProper items ∧
      ReadsBack ((outer.compile names).source style 1) items names outer := by
  intro names style items inner outer
  have identifiers : names.AreIdentifiers := ⟨by decide, by decide, by decide⟩
  have hcrate : IsSegment "crate" := by decide
  have hruntime : IsSegment "runtime" := by decide
  have hspace : IsIndent [' '] := by simp [IsIndent]
  have htab : IsIndent ['\t'] := by simp [IsIndent]
  have hpath := (IsPath.name hcrate).member hruntime hspace htab
  have proper : style.IsProper items :=
    ⟨by simpa [style, items] using hpath, by simp [style, IsIndent]⟩
  exact ⟨identifiers, proper, source_readsBack outer names style items 1 identifiers proper⟩

end MessageTemplate
