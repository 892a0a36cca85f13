/-
The function that is printed for a template.

The template stands above the function as a comment, and its texts, names and keys stand in the
string literals of the body.  The function can be scanned by itself, whatever the template, and
its body reads back as the compiled template.

Two things can spoil the whole.  A name may be a keyword, since a name is accepted by its
characters alone.  And a carriage return of the template is put into the comment as it is,
where it may only stand at the end (`PrintsFunction.isFunction_iff`).
-/
import MessageTemplate.CommandLine.Function
import MessageTemplate.CommandLine.Arguments
import MessageTemplate.MessageBlock.Expansion
import MessageTemplate.Proofs.Compiled.Pieces
import MessageTemplate.Proofs.Compiled.Source
import MessageTemplate.Proofs.Source.Documentation

namespace MessageTemplate

open Source

namespace CommandLine

/-! ### Names of functions -/

theorem toNat_lt_of_isAlphanum {c : Char} (h : c.isAlphanum = true) : c.toNat < 0x80 := by
  unfold Char.isAlphanum Char.isAlpha Char.isUpper Char.isLower Char.isDigit at h
  simp only [Bool.or_eq_true, Bool.and_eq_true, decide_eq_true_eq, UInt32.le_iff_toNat_le,
    ge_iff_le] at h
  change ((65 ≤ c.toNat ∧ c.toNat ≤ 90) ∨ (97 ≤ c.toNat ∧ c.toNat ≤ 122)) ∨
    (48 ≤ c.toNat ∧ c.toNat ≤ 57) at h
  omega

/-- Letters, digits and underscores go on a word. -/
theorem isIdentifierContinue_of_name {c : Char} (h : (c == '_' || c.isAlphanum) = true) :
    isIdentifierContinue c = true := by
  rcases Bool.or_eq_true_iff.mp h with hunderscore | halphanum
  · obtain rfl : c = '_' := beq_iff_eq.mp hunderscore
    rfl
  · rw [isIdentifierContinue, if_pos (toNat_lt_of_isAlphanum halphanum), halphanum, Bool.true_or]

/-- Letters and underscores start a word. -/
theorem isIdentifierStart_of_name {c : Char} (h : (c == '_' || c.isAlpha) = true) :
    isIdentifierStart c = true := by
  rcases Bool.or_eq_true_iff.mp h with hunderscore | halpha
  · obtain rfl : c = '_' := beq_iff_eq.mp hunderscore
    rfl
  · have halphanum : c.isAlphanum = true := by rw [Char.isAlphanum, halpha, Bool.true_or]
    rw [isIdentifierStart, if_pos (toNat_lt_of_isAlphanum halphanum), halpha, Bool.true_or]

/-- **A name that is accepted is one word.** -/
theorem isOneWord_of_isFunctionName {name : String} (h : isFunctionName name = true) :
    IsOneWord name := by
  unfold isFunctionName at h
  split at h
  · simp at h
  · rename_i c rest hname
    simp only [Bool.and_eq_true, List.all_eq_true] at h
    obtain ⟨⟨hstart, hrest⟩, -⟩ := h
    have hgo : ∀ d ∈ c :: rest, isIdentifierContinue d = true := by
      rw [List.forall_mem_cons]
      refine ⟨isIdentifierContinue_of_name ?_,
        fun d hd => isIdentifierContinue_of_name (hrest d hd)⟩
      rw [Bool.or_eq_true] at hstart ⊢
      exact hstart.imp_right fun halpha => by rw [Char.isAlphanum, halpha, Bool.true_or]
    have hplain : readPlainWord (c :: rest) = some (c :: rest, []) := by
      simp only [readPlainWord, isIdentifierStart_of_name hstart, if_true,
        List.takeWhile_eq_self_iff.mpr hgo, List.dropWhile_eq_nil_iff.mpr hgo]
    unfold IsOneWord readWord
    rw [hname]
    split
    · -- A hash would not go on the name.
      rename_i raw heq
      exact absurd (hgo '#' (by simp [heq])) (by decide)
    · have hwhole : String.ofList (c :: rest) = name := by rw [← hname, String.ofList_toList]
      rw [hplain]
      exact congrArg (fun word => some (word, [])) hwhole

/-! ### Lines -/

theorem unlines_cons (line : String) (lines : List String) :
    unlines (line :: lines) = line ++ "\n" ++ unlines lines := by
  simp [unlines]

theorem unlines_eq_intercalate {lines : List String} (h : lines ≠ []) :
    unlines lines = "\n".intercalate (lines ++ [""]) := by
  induction lines with
  | nil => exact absurd rfl h
  | cons line lines ih =>
      cases lines with
      | nil => simp [unlines, String.intercalate_cons_cons]
      | cons next lines =>
          rw [unlines_cons, ih (by simp)]
          exact String.intercalate_cons_cons.symm

/-- Lines with a break after each scan to their lexemes. -/
theorem scanAll_unlines {lines : List String} {lexemes : List Lexeme} (h : Laid lines lexemes) :
    scanAll (unlines lines).toList = some lexemes := by
  have hlast : Laid [""] [] := .last ScansTo.nil
  have hwhole := (h.append hlast).scanAll
  rwa [List.append_nil, ← unlines_eq_intercalate h.ne_nil] at hwhole

theorem isAssembled_unlines {texts lines : List String} (hbreak : "\n" ∈ texts)
    (h : ∀ line ∈ lines, IsAssembled texts line) : IsAssembled texts (unlines lines) := by
  refine .join fun text htext => ?_
  obtain ⟨line, hline, rfl⟩ := List.mem_map.mp htext
  exact (h line hline).append (.of_mem hbreak)

/-! ### The comment -/

variable {template name : String} {node : Node}

theorem newline_notMem_documentationLine (template : String) :
    '\n' ∉ (documentationLine template).toList := by
  have hchars : '\n' ∉ template.toList.flatMap documentationChar := by
    intro hmem
    obtain ⟨c, -, hc⟩ := List.mem_flatMap.mp hmem
    unfold documentationChar at hc
    split at hc
    · simp at hc
    · rename_i hfeed
      obtain rfl : '\n' = c := by simpa using hc
      exact hfeed rfl
  simpa [documentationLine] using hchars

/-- The text of the comment above a function, with the blank in front of the template. -/
def commentText (template : String) : String :=
  String.ofList (withoutReturn (' ' :: template.toList.flatMap documentationChar))

/-- A carriage return of the template is put into the comment as it is. -/
theorem return_mem_comment_iff : '\r' ∈ (' ' :: template.toList.flatMap documentationChar).dropLast
    ↔ '\r' ∈ template.toList.dropLast := by
  have hchar : ∀ c, '\r' ∈ documentationChar c ↔ '\r' = c := by
    intro c
    unfold documentationChar
    split
    · rename_i hfeed
      obtain rfl : c = '\n' := beq_iff_eq.mp hfeed
      decide
    · simp
  have hlast : ∀ c, '\r' ∉ (documentationChar c).dropLast := by
    intro c
    unfold documentationChar
    split <;> simp
  rcases List.eq_nil_or_concat template.toList with hnil | ⟨before, c, hconcat⟩
  · rw [hnil]
    decide
  · rw [List.concat_eq_append] at hconcat
    have hne : documentationChar c ≠ [] := by
      unfold documentationChar
      split <;> simp
    have hline : (' ' :: (before ++ [c]).flatMap documentationChar).dropLast
        = ' ' :: before.flatMap documentationChar ++ (documentationChar c).dropLast := by
      rw [List.flatMap_append, List.flatMap_singleton, ← List.cons_append,
        List.dropLast_append_of_ne_nil hne]
    rw [hconcat, hline, List.dropLast_concat, List.mem_append, List.mem_cons,
      List.mem_flatMap]
    simp [hchar, hlast]

/-! ### The function -/

/-- The lines of a function, without its documentation. -/
def declarationLines (name : String) (function : CompiledFunction) : List String :=
  headLine name function :: function.body.source SourceStyle.standard 1 ++ ["\x7d"]

/-- The lexemes of the first line of a function. -/
def headLexemes (name : String) (function : CompiledFunction) : List Lexeme :=
  [.word "pub", .word "fn", .word name] ++ group .parenthesis
    ([.word function.values, .punct ':', .punct '&'] ++ path ["icumsg", "Values"] ++
      [.punct ',', .word function.sink, .punct ':', .punct '&', .word "mut", .word "dyn"] ++
      path ["icumsg", "DiagnosticSink"]) ++
    [.punct '-', .punct '>', .word "String", .opening .brace]

/-- The lexemes of a function without its documentation. -/
def declarationLexemes (name : String) (function : CompiledFunction) : List Lexeme :=
  headLexemes name function ++ function.body.lexemes (path ["icumsg", "runtime"]) ++
    [.closing .brace]

theorem headLine_scansTo (hname : IsOneWord name) {function : CompiledFunction}
    (hvalues : IsOneWord function.values) (hsink : IsOneWord function.sink) :
    ScansTo (headLine name function).toList (headLexemes name function) := by
  have hend := ScansTo.nil.fixed ": &mut dyn ::icumsg::DiagnosticSink) -> String \x7b"
    [.punct ':', .punct '&', .word "mut", .word "dyn", .punct ':', .punct ':', .word "icumsg",
      .punct ':', .punct ':', .word "DiagnosticSink", .closing .parenthesis, .punct '-', .punct '>',
      .word "String", .opening .brace] rfl
  have hparameters := (hend.word hsink rfl).fixed ": &::icumsg::Values, "
    [.punct ':', .punct '&', .punct ':', .punct ':', .word "icumsg", .punct ':', .punct ':',
      .word "Values", .punct ','] rfl
  have hwhole := (((hparameters.word hvalues rfl).fixed "(" [.opening .parenthesis] rfl).word hname
    rfl).fixed "pub fn " [.word "pub", .word "fn"] rfl
  simpa [headLine, headLexemes, path, group] using hwhole

/-- The parameters of a compiled function are words. -/
theorem areWords_parameters (node : Node) :
    IsOneWord (CompiledFunction.ofNode node).values ∧
      IsOneWord (CompiledFunction.ofNode node).sink := by
  have hread : IsOneWord "values" ∧ IsOneWord "sink" := by decide
  have hunread : IsOneWord "_values" ∧ IsOneWord "_sink" := by decide
  unfold CompiledFunction.ofNode
  cases node.valueNames.isEmpty with
  | false => exact hread
  | true => exact hunread

theorem isProper_standard : SourceStyle.standard.IsProper (path ["icumsg", "runtime"]) := by
  have hname : IsSegment "icumsg" := by decide
  have hmodule : IsSegment "runtime" := by decide
  have hnone : IsIndent [] := by simp [IsIndent]
  constructor
  · exact (IsPath.rooted hname hnone).member hmodule hnone hnone
  · simp [SourceStyle.standard, IsIndent]

/-- **The function scans to its lexemes**, whatever the template. -/
theorem declaration_laid (hname : IsOneWord name) (node : Node) :
    Laid (declarationLines name (CompiledFunction.ofNode node))
      (declarationLexemes name (CompiledFunction.ofNode node)) := by
  have hidentifiers :
      ∀ name ∈ (node.compile CodeNames.standard).identifiers, IsIdentifier name := by
    have hstandard : ∀ name ∈ CodeNames.standard.all, IsIdentifier name := by decide
    exact fun name hname =>
      hstandard name (Code.ofNode_identifiers CodeNames.standard node none name hname)
  have hhead := headLine_scansTo hname (areWords_parameters node).1 (areWords_parameters node).2
  have hbody := Code.source_laid isProper_standard.path isProper_standard.indent hidentifiers 1
  have hend : ScansTo "\x7d".toList [.closing .brace] :=
    ScansTo.nil.fixed "\x7d" [.closing .brace] rfl
  have hwhole := (hbody.append (.last hend)).line hhead
  rw [← List.append_assoc] at hwhole
  exact hwhole

theorem declarationLexemes_neutral (name : String) (node : Node) :
    IsNeutral (declarationLexemes name (CompiledFunction.ofNode node)) := by
  let function := CompiledFunction.ofNode node
  have hparameters : IsNeutral ([.word function.values, .punct ':', .punct '&'] ++
      path ["icumsg", "Values"] ++ [.punct ',', .word function.sink, .punct ':', .punct '&',
        .word "mut", .word "dyn"] ++ path ["icumsg", "DiagnosticSink"]) := IsNeutral.plain rfl
  have hstart : IsNeutral [.word "pub", .word "fn", .word name] := IsNeutral.plain rfl
  have hresult : IsNeutral [.punct '-', .punct '>', .word "String"] := IsNeutral.plain rfl
  have hbody := function.body.lexemes_neutral isProper_standard.path.isNeutral
  have hwhole := ((hstart.append (hparameters.group .parenthesis)).append hresult).append
    (hbody.group .brace)
  simpa [declarationLexemes, headLexemes, group, function] using hwhole

/-! ### What is printed -/

/-- The texts in a printed function, apart from literals and its comment. -/
def declarationTexts (name : String) : List String :=
  SourceStyle.standard.ownTexts ++ ["values", "sink", "out", "_values", "_sink", "pub fn ", name,
    ": &::icumsg::Values, ", ": &mut dyn ::icumsg::DiagnosticSink) -> String \x7b", "\n"]

/-- **Nothing of a template comes into its function but in literals.** -/
theorem isAssembled_declaration (name : String) (node : Node) :
    IsAssembled (declarationTexts name)
      (unlines (declarationLines name (CompiledFunction.ofNode node))) := by
  have own : ∀ text ∈ SourceStyle.standard.ownTexts, IsAssembled (declarationTexts name) text :=
    fun text htext => .of_mem (List.mem_append_left _ htext)
  have others : ∀ text ∈ ["values", "sink", "out", "_values", "_sink", "pub fn ", name,
      ": &::icumsg::Values, ", ": &mut dyn ::icumsg::DiagnosticSink) -> String \x7b", "\n"],
      IsAssembled (declarationTexts name) text :=
    fun text htext => .of_mem (List.mem_append_right _ htext)
  have hidentifiers : ∀ identifier ∈ (CompiledFunction.ofNode node).body.identifiers,
      IsAssembled (declarationTexts name) identifier := by
    intro identifier hidentifier
    have hmem := Code.ofNode_identifiers CodeNames.standard node none identifier hidentifier
    simp only [CodeNames.all, CodeNames.standard, List.mem_cons, List.not_mem_nil, or_false] at hmem
    rcases hmem with rfl | rfl | rfl <;> exact others _ (by simp)
  have hvalues : IsAssembled (declarationTexts name) (CompiledFunction.ofNode node).values := by
    unfold CompiledFunction.ofNode
    cases node.valueNames.isEmpty <;> exact others _ (by simp)
  have hsink : IsAssembled (declarationTexts name) (CompiledFunction.ofNode node).sink := by
    unfold CompiledFunction.ofNode
    cases node.valueNames.isEmpty <;> exact others _ (by simp)
  have hbody := Code.isAssembled_source own hidentifiers 1
  have hbrace := own "\x7d" (by simp [SourceStyle.ownTexts])
  have hopen := own "(" (by simp [SourceStyle.ownTexts])
  have hbreak : "\n" ∈ declarationTexts name := by simp [declarationTexts]
  simp only [List.forall_mem_cons] at others
  refine isAssembled_unlines hbreak ?_
  rw [declarationLines, List.forall_mem_append, List.forall_mem_cons]
  refine ⟨⟨?_, hbody⟩, by simpa using hbrace⟩
  refine .of_pieces ["pub fn ", name, "(", (CompiledFunction.ofNode node).values,
    ": &::icumsg::Values, ", (CompiledFunction.ofNode node).sink,
    ": &mut dyn ::icumsg::DiagnosticSink) -> String \x7b"]
    (by simp [headLine, String.append_assoc]) ?_
  simp [others, hvalues, hsink, hopen]

/-- **Source of one function with documentation**, whose body is the compiled template. -/
structure IsFunction (source name : String) (node : Node) : Prop where
  /-- The name is an identifier, so it is no keyword. -/
  named : IsIdentifier name
  /-- One comment, and then one function with the name that returns a text. -/
  scans : ∃ text body, scan? source = some (documentation text ++
      (headLexemes name (CompiledFunction.ofNode node) ++ body ++ [.closing .brace])) ∧
    Code.ofLexemes? (path ["icumsg", "runtime"]) body = some (node.compile CodeNames.standard)

/-- **What is printed for a template and a name.** -/
structure PrintsFunction (outcome : Outcome) (template name : String) (node : Node) : Prop where
  success : outcome.status = .success ∧ outcome.messages = ""
  /-- The comment takes the first line.  The rest is put together from texts that do not depend
  on the template and from string literals, and is a function by itself. -/
  lines : ∃ rest, outcome.output = documentationLine template ++ "\n" ++ rest ∧
    '\n' ∉ (documentationLine template).toList ∧ IsAssembled (declarationTexts name) rest ∧
    scan? rest = some (declarationLexemes name (CompiledFunction.ofNode node))
  /-- The body reads back. -/
  reads : Code.ofLexemes? (path ["icumsg", "runtime"])
      ((CompiledFunction.ofNode node).body.lexemes (path ["icumsg", "runtime"]))
    = some (node.compile CodeNames.standard)
  /-- The whole can be scanned if no carriage return stands inside the comment. -/
  scans : scan? outcome.output = if '\r' ∈ template.toList.dropLast then none
    else some (documentation (commentText template) ++
      declarationLexemes name (CompiledFunction.ofNode node))
  /-- What spoils the function is a keyword for a name, or a carriage return. -/
  isFunction_iff : IsFunction outcome.output name node ↔
    isKeyword name = false ∧ '\r' ∉ template.toList.dropLast

/-- What is printed: the comment, a line break, and the function. -/
theorem generate_eq (hparse : parse template = .ok node) :
    generate template name SourceStyle.standard.path
      = { status := .success, messages := ""
          output := documentationLine template ++ "\n" ++
            unlines (declarationLines name (CompiledFunction.ofNode node)) } := by
  rw [generate, hparse]
  dsimp only
  rw [Outcome.ofLines, ← unlines_cons]
  rfl

/-- **The whole is scanned, or its comment cannot be.** -/
theorem scan?_output (hname : IsOneWord name) (template : String) (node : Node) :
    scan? (documentationLine template ++ "\n" ++
        unlines (declarationLines name (CompiledFunction.ofNode node)))
      = if '\r' ∈ template.toList.dropLast then none
        else some (documentation (commentText template) ++
          declarationLexemes name (CompiledFunction.ofNode node)) := by
  have hrest := scanAll_unlines (declaration_laid hname node)
  generalize unlines (declarationLines name (CompiledFunction.ofNode node)) = rest at hrest ⊢
  have hchars : (documentationLine template ++ "\n" ++ rest).toList
      = '/' :: '/' :: '/' :: (' ' :: template.toList.flatMap documentationChar) ++
        '\n' :: rest.toList := by
    simp [documentationLine]
  have hline : '\n' ∉ ' ' :: template.toList.flatMap documentationChar := by
    intro hmem
    apply newline_notMem_documentationLine template
    simpa [documentationLine] using hmem
  have hscan := scanAll_documentation hline (by simp) rest.toList
  rw [← hchars, hrest, Option.map_some] at hscan
  simp only [return_mem_comment_iff] at hscan
  split at hscan
  · rename_i hreturn
    rw [if_pos hreturn]
    refine scan?_eq_none ?_ hscan
    rw [hchars]
    simp
  · rename_i hreturn
    rw [if_neg hreturn]
    refine scan?_eq hscan (IsNeutral.append ?_ (declarationLexemes_neutral name node))
    have hhash : IsNeutral [.punct '#'] := IsNeutral.plain rfl
    have hinside : IsNeutral [.word "doc", .punct '=', .string (commentText template)] :=
      IsNeutral.plain rfl
    exact hhash.append (hinside.group .bracket)

/--
**What is printed is a function unless its name is a keyword or a carriage return of the template
stands before its end.**
-/
theorem generate_printsFunction (hparse : parse template = .ok node)
    (hname : isFunctionName name = true) :
    PrintsFunction (generate template name SourceStyle.standard.path) template name node := by
  have hword := isOneWord_of_isFunctionName hname
  have hstandard : ∀ name ∈ CodeNames.standard.all, isKeyword name = false := by decide
  have hreads : Code.ofLexemes? (path ["icumsg", "runtime"])
      ((CompiledFunction.ofNode node).body.lexemes (path ["icumsg", "runtime"]))
        = some (node.compile CodeNames.standard) :=
    Code.ofLexemes?_lexemes isProper_standard.path.isOfPath fun name hname =>
      hstandard name (Code.ofNode_identifiers CodeNames.standard node none name hname)
  have hscan := scan?_output hword template node
  rw [generate_eq hparse]
  constructor
  case success => exact ⟨rfl, rfl⟩
  case lines =>
    have hread := scan?_eq (scanAll_unlines (declaration_laid hword node))
      (declarationLexemes_neutral name node)
    exact ⟨_, rfl, newline_notMem_documentationLine template, isAssembled_declaration name node,
      hread⟩
  case reads => exact hreads
  case scans => exact hscan
  case isFunction_iff =>
    constructor
    · rintro ⟨named, text, body, hsome, -⟩
      refine ⟨named.2, fun hreturn => ?_⟩
      rw [hscan, if_pos hreturn] at hsome
      exact absurd hsome (by simp)
    · rintro ⟨hkeyword, hreturn⟩
      rw [if_neg hreturn] at hscan
      exact ⟨⟨hword, hkeyword⟩, _, _, hscan, hreads⟩

/-- A keyword for a name, and a carriage return that belongs to the end of the comment. -/
theorem generate_printsFunction_keyword :
    parse "Hi\r" = .ok (.literal "Hi\r") ∧ isFunctionName "fn" = true ∧
      PrintsFunction (generate "Hi\r" "fn" SourceStyle.standard.path) "Hi\r" "fn"
        (.literal "Hi\r") :=
  ⟨rfl, by decide, generate_printsFunction rfl (by decide)⟩

end CommandLine

end MessageTemplate
