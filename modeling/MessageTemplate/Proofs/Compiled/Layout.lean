/-
The lines of code have the lexemes of the code.

Each kind of line is spelled once, from its end to its start, and then the lines of any
code are laid out by going through the code (`Code.lines_laid`).  All that this needs of
the identifiers in the code is that they are identifiers.

With the delimiters of the code matching (`Code.lexemes_neutral`), the lines scan to the
lexemes of the code (`Code.scan?_source`).
-/
import MessageTemplate.Compiled.Lexemes
import MessageTemplate.Proofs.Compiled.Identifiers
import MessageTemplate.Proofs.Compiled.Lines

namespace MessageTemplate

open Source

/-! ### Pieces of lines -/

theorem SourceStyle.isIndent_indentation {style : SourceStyle}
    (hindent : IsIndent style.indent.toList) (level : Nat) :
    IsIndent (style.indentation level).toList := by
  intro c hc
  simp only [indentation, String.toList_join, List.mem_flatMap, List.mem_replicate] at hc
  obtain ⟨_, ⟨-, rfl⟩, hmem⟩ := hc
  exact hindent c hmem

namespace Code

/-- What stands before the content of an arm. -/
theorem armHead_scansTo (key : String) {indent : String} (hindent : IsIndent indent.toList) :
    ScansTo (indent ++ "(" ++ SourceStyle.literal key ++ ", ").toList
      [.opening .parenthesis, .string key, .punct ','] := by
  have hwhole := (((ScansTo.nil.fixed ", " [.punct ','] rfl).string key rfl).fixed "("
    [.opening .parenthesis] rfl).indent hindent
  simpa [SourceStyle.literal_toList] using hwhole

/-- A delimiter or two at the start of a line. -/
theorem closing_scansTo {text indent : String} {lexemes : List Lexeme}
    (spelled : ScansTo text.toList lexemes) (hindent : IsIndent indent.toList) :
    ScansTo (indent ++ text).toList lexemes := by
  rw [String.toList_append]
  exact spelled.indent hindent

/-- The declaration of a buffer. -/
theorem declaration_scansTo {buffer indent : String} (hbuffer : IsIdentifier buffer)
    (hindent : IsIndent indent.toList) :
    ScansTo (indent ++ "let mut " ++ buffer ++ " = String::new();").toList
      ([.word "let", .word "mut", .word buffer, .punct '=', .word "String"] ++ path ["new"] ++
        group .parenthesis [] ++ [.punct ';']) := by
  have hend := ScansTo.nil.fixed " = String::new();" [.punct '=', .word "String", .punct ':',
    .punct ':', .word "new", .opening .parenthesis, .closing .parenthesis, .punct ';'] rfl
  have hwhole := ((hend.word hbuffer.1 rfl).fixed "let mut " [.word "let", .word "mut"]
    rfl).indent hindent
  simpa [path, group] using hwhole

/-- What stands before the argument of a statement. -/
theorem pushHead_scansTo {buffer indent : String} (hbuffer : IsIdentifier buffer)
    (hindent : IsIndent indent.toList) :
    ScansTo (indent ++ buffer ++ ".push_str(").toList
      [.word buffer, .punct '.', .word "push_str", .opening .parenthesis] := by
  have hwhole := ((ScansTo.nil.fixed ".push_str("
    [.punct '.', .word "push_str", .opening .parenthesis] rfl).word hbuffer.1 rfl).indent hindent
  simpa using hwhole

/-- A statement that appends a text. -/
theorem pushText_scansTo {buffer indent : String} (hbuffer : IsIdentifier buffer) (text : String)
    (hindent : IsIndent indent.toList) :
    ScansTo (indent ++ buffer ++ ".push_str(" ++ SourceStyle.literal text ++ ");").toList
      (pushLexemes buffer [.string text]) := by
  have hargument := (ScansTo.nil.fixed ");" [.closing .parenthesis, .punct ';'] rfl).string text
    rfl
  have hwhole := (pushHead_scansTo hbuffer hindent).append hargument
  simpa [SourceStyle.literal_toList, pushLexemes, group] using hwhole

end Code

/-! ### Calls and flat code -/

section

variable {style : SourceStyle} {items : List Lexeme} (hpath : IsPath style.path.toList items)

include hpath

/-- An item in front of a boundary. -/
theorem Source.ScansTo.item {name : String} (hname : IsOneWord name) {rest : List Char}
    {lexemes : List Lexeme} (h : ScansTo rest lexemes) (bounded : IsBounded rest) :
    ScansTo ((style.item name).toList ++ rest) (itemLexemes items name ++ lexemes) := by
  have hcolons : ∀ after, IsBounded ("::".toList ++ after) := fun _ => rfl
  have hwhole := hpath.scansTo (hcolons _) ((h.word hname bounded).fixed "::" colons rfl)
  simpa [SourceStyle.item, itemLexemes, path, colons] using hwhole

theorem Call.scansTo (call : Call) (h : ∀ name ∈ call.identifiers, IsIdentifier name) :
    ScansTo (call.source style).toList (call.lexemes items) := by
  have hend := ScansTo.nil.fixed ")" [.closing .parenthesis] rfl
  cases call with
  | text values sink name =>
      have hvalues := (h values (by simp [identifiers])).1
      have hsink := (h sink (by simp [identifiers])).1
      have harguments := ((((hend.string name rfl).fixed ", " [.punct ','] rfl).word hsink
        rfl).fixed ", " [.punct ','] rfl).word hvalues rfl
      have hitem : IsOneWord "text" := by decide
      have hwhole := (harguments.fixed "(" [.opening .parenthesis] rfl).item hpath hitem rfl
      simpa [source, lexemes, SourceStyle.literal_toList, separated, group, List.intercalate]
        using hwhole
  | number values name =>
      have hvalues := (h values (by simp [identifiers])).1
      have harguments := ((hend.string name rfl).fixed ", " [.punct ','] rfl).word hvalues rfl
      have hitem : IsOneWord "number" := by decide
      have hwhole := (harguments.fixed "(" [.opening .parenthesis] rfl).item hpath hitem rfl
      simpa [source, lexemes, SourceStyle.literal_toList, separated, group, List.intercalate]
        using hwhole

/-- Calls with commas between them. -/
theorem Call.scansTo_separated (calls : List Call)
    (h : ∀ call ∈ calls, ∀ name ∈ call.identifiers, IsIdentifier name) :
    ScansTo (", ".intercalate (calls.map (Call.source style))).toList
      (separated (calls.map (Call.lexemes items))) := by
  induction calls with
  | nil => exact ScansTo.nil
  | cons call calls ih =>
      have hcall := call.scansTo hpath (h call (by simp))
      have hcalls := ih fun other hother => h other (List.mem_cons_of_mem _ hother)
      cases calls with
      | nil => simpa [String.toList_intercalate, separated, List.intercalate] using hcall
      | cons next calls =>
          have hwhole := hcall.append (hcalls.fixed ", " [.punct ','] rfl)
          simpa [String.toList_intercalate, separated, List.intercalate] using hwhole

theorem Flat.scansTo (flat : Flat) (h : ∀ name ∈ flat.identifiers, IsIdentifier name) :
    ScansTo (flat.source style).toList (flat.lexemes items) := by
  have hend := ScansTo.nil.fixed ")" [.closing .parenthesis] rfl
  unfold source lexemes
  by_cases htext : flat.isText = true
  · have hwhole := (hend.string flat.first rfl).fixed "String::from("
      [.word "String", .punct ':', .punct ':', .word "from", .opening .parenthesis] rfl
    rw [if_pos htext, if_pos htext]
    simpa [SourceStyle.literal_toList, group, path] using hwhole
  · have hcalls : ∀ call ∈ flat.holes.map (·.1), ∀ name ∈ call.identifiers,
        IsIdentifier name := by
      intro call hcall name hname
      obtain ⟨hole, hhole, rfl⟩ := List.mem_map.mp hcall
      exact h name (List.mem_flatMap.mpr ⟨hole, hhole, hname⟩)
    have harguments := (Call.scansTo_separated hpath _ hcalls).append hend
    have hwhole := ((harguments.fixed ", " [.punct ','] rfl).string flat.formatString
      rfl).fixed "format!(" [.word "format", .punct '!', .opening .parenthesis] rfl
    rw [if_neg htext, if_neg htext]
    obtain ⟨hole, holes, hholes⟩ : ∃ hole holes, flat.holes = hole :: holes :=
      List.exists_cons_of_ne_nil (by simpa [isText] using htext)
    simpa [SourceStyle.literal_toList, group, separated, List.intercalate, hholes,
      Function.comp_def] using hwhole

/-! ### Expressions -/

namespace Code

/-- The first line of a resolver call. -/
theorem resolveHead_scansTo (kind : BranchKind) {values sink : String} (name : String)
    (hvalues : IsIdentifier values) (hsink : IsIdentifier sink) :
    ScansTo (style.item kind.resolver ++ "(" ++ values ++ ", " ++ sink ++ ", " ++
        SourceStyle.literal name ++ ", &[").toList
      (itemLexemes items kind.resolver ++ [.opening .parenthesis, .word values, .punct ',',
        .word sink, .punct ',', .string name, .punct ',', .punct '&', .opening .bracket]) := by
  have hitem : IsOneWord kind.resolver := by cases kind <;> decide
  have hend := ScansTo.nil.fixed ", &[" [.punct ',', .punct '&', .opening .bracket] rfl
  have harguments := ((((hend.string name rfl).fixed ", " [.punct ','] rfl).word hsink.1
    rfl).fixed ", " [.punct ','] rfl).word hvalues.1 rfl
  have hwhole := (harguments.fixed "(" [.opening .parenthesis] rfl).item hpath hitem rfl
  simpa [SourceStyle.literal_toList] using hwhole

/-- An arm that is a text. -/
theorem textArm_scansTo (text : String) :
    ScansTo (style.item "Arm" ++ "::Text(" ++ SourceStyle.literal text ++ ")),").toList
      (itemLexemes items "Arm" ++ path ["Text"] ++ group .parenthesis [.string text] ++
        [.closing .parenthesis, .punct ',']) := by
  have hitem : IsOneWord "Arm" := by decide
  have hend := ScansTo.nil.fixed ")),"
    [.closing .parenthesis, .closing .parenthesis, .punct ','] rfl
  have hwhole := ((hend.string text rfl).fixed "::Text("
    [.punct ':', .punct ':', .word "Text", .opening .parenthesis] rfl).item hpath hitem rfl
  simpa [SourceStyle.literal_toList, path, group] using hwhole

/-- What stands before the body of a lazy arm. -/
theorem lazyHead_scansTo {parameter : Option String}
    (hparameter : ∀ name ∈ parameter, IsIdentifier name) :
    ScansTo (lazyHead style parameter).toList
      (itemLexemes items "Arm" ++ path ["Lazy"] ++
        .opening .parenthesis :: lazyLexemes items parameter) := by
  have harm : IsOneWord "Arm" := by decide
  have hsink : IsOneWord "DiagnosticSink" := by decide
  have hword : IsOneWord (parameter.getD "_") := by
    cases parameter with
    | none => decide
    | some name => exact (hparameter name rfl).1
  have hend := (ScansTo.nil.fixed "| " [.punct '|'] rfl).item hpath hsink rfl
  have hparameters := (hend.fixed ": &mut dyn "
    [.punct ':', .punct '&', .word "mut", .word "dyn"] rfl).word hword rfl
  have hwhole := (hparameters.fixed "::Lazy(&|"
    [.punct ':', .punct ':', .word "Lazy", .opening .parenthesis, .punct '&', .punct '|']
    rfl).item hpath harm rfl
  simpa [lazyHead, lazyLexemes, path] using hwhole

end Code

end

/-! ### Every expression -/

namespace Code

variable {style : SourceStyle} {items : List Lexeme}

mutual

/-- **The lines of code are laid out with its lexemes.** -/
theorem lines_laid (hpath : IsPath style.path.toList items)
    (hindent : IsIndent style.indent.toList) :
    ∀ (code : Code) (level : Nat),
    (∀ name ∈ code.identifiers, IsIdentifier name) →
    Laid (code.lines style level) (code.lexemes items)
  | .flat pieces, level, h => .last (pieces.scansTo hpath h)
  | .resolve kind values sink name arms, level, h => by
      simp only [identifiers, List.forall_mem_cons] at h
      have houter := SourceStyle.isIndent_indentation hindent level
      have hend : ScansTo "])".toList [.closing .bracket, .closing .parenthesis] :=
        ScansTo.nil.fixed "])" [.closing .bracket, .closing .parenthesis] rfl
      have hlast := Laid.last (closing_scansTo hend houter)
      have hwhole := (armLines_laid hpath hindent arms level h.2.2 hlast).line
        (resolveHead_scansTo hpath kind name h.1 h.2.1)
      simpa [lines, lexemes, separated, group, List.intercalate] using hwhole
  | .block buffer statements result, level, h => by
      simp only [identifiers, List.forall_mem_cons] at h
      have houter := SourceStyle.isIndent_indentation hindent level
      have hinner := SourceStyle.isIndent_indentation hindent (level + 1)
      have hopen : ScansTo "\x7b".toList [.opening .brace] :=
        ScansTo.nil.fixed "\x7b" [.opening .brace] rfl
      have hclose : ScansTo "\x7d".toList [.closing .brace] :=
        ScansTo.nil.fixed "\x7d" [.closing .brace] rfl
      have hresult : ScansTo (style.indentation (level + 1)).toList [] := by
        simpa using ScansTo.nil.indent hinner
      have hlast := (Laid.last (closing_scansTo hclose houter)).word hresult h.2.1.1
      have hstatements := statementLines_laid hpath hindent statements level h.2.2 hlast
      have hwhole := (hstatements.line (declaration_scansTo h.1 hinner)).line hopen
      simpa [lines, lexemes, path, group] using hwhole

theorem armLines_laid (hpath : IsPath style.path.toList items)
    (hindent : IsIndent style.indent.toList) :
    ∀ (arms : List (String × ArmCode Code)) (level : Nat),
    (∀ name ∈ armIdentifiers arms, IsIdentifier name) →
    ∀ {others : List String} {lexemes : List Lexeme}, Laid others lexemes →
      Laid (armLines style arms level ++ others) (armLexemes items arms ++ lexemes)
  | [], level, h, others, lexemes, hothers => hothers
  | (key, .text text) :: rest, level, h, others, lexemes, hothers => by
      have hinner := SourceStyle.isIndent_indentation hindent (level + 1)
      have hline := (armHead_scansTo key hinner).append (textArm_scansTo hpath text)
      rw [← String.toList_append] at hline
      have hwhole := (armLines_laid hpath hindent rest level h hothers).line hline
      simpa [armLines, armLexemes, armLexemesOf, separated, group, List.intercalate,
        String.append_assoc] using hwhole
  | (key, .lazy parameter body) :: rest, level, h, others, lexemes, hothers => by
      simp only [armIdentifiers, List.forall_mem_append] at h
      have hinner := SourceStyle.isIndent_indentation hindent (level + 1)
      have hparameter : ∀ name ∈ parameter, IsIdentifier name :=
        fun name hname => h.1.1 name (by simpa using hname)
      have hhead := (armHead_scansTo key hinner).append (lazyHead_scansTo hpath hparameter)
      rw [← String.toList_append] at hhead
      have hend : ScansTo ")),".toList
          [.closing .parenthesis, .closing .parenthesis, .punct ','] :=
        ScansTo.nil.fixed ")),"
          [.closing .parenthesis, .closing .parenthesis, .punct ','] rfl
      have harm := (lines_laid hpath hindent body (level + 1) h.1.2).wrapLines hhead hend
      have hwhole := harm.append (armLines_laid hpath hindent rest level h.2 hothers)
      simpa [armLines, armLexemes, armLexemesOf, separated, group, List.intercalate,
        String.append_assoc] using hwhole

theorem statementLines_laid (hpath : IsPath style.path.toList items)
    (hindent : IsIndent style.indent.toList) :
    ∀ (statements : List (Statement Code)) (level : Nat),
    (∀ name ∈ statementIdentifiers statements, IsIdentifier name) →
    ∀ {others : List String} {lexemes : List Lexeme}, Laid others lexemes →
      Laid (statementLines style statements level ++ others)
        (statementLexemes items statements ++ lexemes)
  | [], level, h, others, lexemes, hothers => hothers
  | .pushText buffer text :: rest, level, h, others, lexemes, hothers => by
      simp only [statementIdentifiers, List.forall_mem_cons] at h
      have hinner := SourceStyle.isIndent_indentation hindent (level + 1)
      have hwhole := (statementLines_laid hpath hindent rest level h.2 hothers).line
        (pushText_scansTo h.1 text hinner)
      simpa [statementLines, statementLexemes] using hwhole
  | .pushCode buffer code :: rest, level, h, others, lexemes, hothers => by
      simp only [statementIdentifiers, List.cons_append, List.forall_mem_cons,
        List.forall_mem_append] at h
      have hinner := SourceStyle.isIndent_indentation hindent (level + 1)
      have hand : ScansTo "&".toList [.punct '&'] := ScansTo.nil.fixed "&" [.punct '&'] rfl
      have hhead := (pushHead_scansTo h.1 hinner).append hand
      rw [← String.toList_append] at hhead
      have hend : ScansTo ");".toList [.closing .parenthesis, .punct ';'] :=
        ScansTo.nil.fixed ");" [.closing .parenthesis, .punct ';'] rfl
      have hstatement := (lines_laid hpath hindent code (level + 1) h.2.1).wrapLines hhead hend
      have hwhole := hstatement.append (statementLines_laid hpath hindent rest level h.2.2 hothers)
      simpa [statementLines, statementLexemes, pushLexemes, group, String.append_assoc]
        using hwhole

end

/-- The lines of code at a level are laid out, too. -/
theorem source_laid (hpath : IsPath style.path.toList items)
    (hindent : IsIndent style.indent.toList) {code : Code}
    (h : ∀ name ∈ code.identifiers, IsIdentifier name) (level : Nat) :
    Laid (code.source style level) (code.lexemes items) := by
  have hbefore : ScansTo (style.indentation level).toList [] := by
    simpa using ScansTo.nil.indent (SourceStyle.isIndent_indentation hindent level)
  have hafter : ScansTo "".toList [] := ScansTo.nil
  have hwhole := (lines_laid hpath hindent code level h).wrapLines hbefore hafter
  simpa [source] using hwhole

/-! ### Matching delimiters -/

end Code

variable {items : List Lexeme}

theorem itemLexemes_neutral (hitems : IsNeutral items) (name : String) :
    IsNeutral (itemLexemes items name) :=
  hitems.append (IsNeutral.path [name])

theorem Call.lexemes_neutral (hitems : IsNeutral items) (call : Call) :
    IsNeutral (call.lexemes items) := by
  cases call with
  | text values sink name =>
      exact (itemLexemes_neutral hitems _).append (IsNeutral.group _ (IsNeutral.plain rfl))
  | number values name =>
      exact (itemLexemes_neutral hitems _).append (IsNeutral.group _ (IsNeutral.plain rfl))

theorem Flat.lexemes_neutral (hitems : IsNeutral items) (flat : Flat) :
    IsNeutral (flat.lexemes items) := by
  unfold lexemes
  by_cases htext : flat.isText = true
  · have hhead : IsNeutral (.word "String" :: path ["from"]) := IsNeutral.plain rfl
    rw [if_pos htext]
    exact hhead.append (IsNeutral.group _ (IsNeutral.plain rfl))
  · have hhead : IsNeutral [.word "format", .punct '!'] := IsNeutral.plain rfl
    rw [if_neg htext]
    refine hhead.append (IsNeutral.group _ (IsNeutral.separated ?_))
    rw [List.forall_mem_cons]
    refine ⟨IsNeutral.plain rfl, fun run hrun => ?_⟩
    obtain ⟨hole, -, rfl⟩ := List.mem_map.mp hrun
    exact hole.1.lexemes_neutral hitems

namespace Code

theorem armLexemesOf_neutral (hitems : IsNeutral items) (key variant : String)
    {content : List Lexeme} (h : IsNeutral content) :
    IsNeutral (armLexemesOf items key variant content) := by
  have hcomma : IsNeutral [.punct ','] := IsNeutral.plain rfl
  refine (IsNeutral.group _ (IsNeutral.separated ?_)).append hcomma
  rw [List.forall_mem_cons, List.forall_mem_singleton]
  exact ⟨IsNeutral.plain rfl, ((itemLexemes_neutral hitems _).append
    (IsNeutral.path _)).append (IsNeutral.group _ h)⟩

theorem lazyLexemes_neutral (hitems : IsNeutral items) (parameter : Option String) :
    IsNeutral (lazyLexemes items parameter) := by
  have hhead : IsNeutral [.punct '&', .punct '|', .word (parameter.getD "_"), .punct ':',
      .punct '&', .word "mut", .word "dyn"] := IsNeutral.plain rfl
  have hend : IsNeutral [.punct '|'] := IsNeutral.plain rfl
  exact (hhead.append (itemLexemes_neutral hitems _)).append hend

theorem pushLexemes_neutral (buffer : String) {argument : List Lexeme} (h : IsNeutral argument) :
    IsNeutral (pushLexemes buffer argument) := by
  have hhead : IsNeutral [.word buffer, .punct '.', .word "push_str"] := IsNeutral.plain rfl
  have hend : IsNeutral [.punct ';'] := IsNeutral.plain rfl
  exact (hhead.append (IsNeutral.group _ h)).append hend

mutual

/-- **Code closes the delimiters that it opens.** -/
theorem lexemes_neutral (hitems : IsNeutral items) :
    ∀ code : Code, IsNeutral (code.lexemes items)
  | .flat pieces => pieces.lexemes_neutral hitems
  | .resolve kind values sink name arms => by
      have harms := IsNeutral.group .bracket (armLexemes_neutral hitems arms)
      have hand : IsNeutral [.punct '&'] := IsNeutral.plain rfl
      refine (itemLexemes_neutral hitems _).append (IsNeutral.group _ (IsNeutral.separated ?_))
      simp only [List.forall_mem_cons, List.not_mem_nil, false_implies, implies_true, and_true]
      exact ⟨IsNeutral.plain rfl, IsNeutral.plain rfl, IsNeutral.plain rfl, hand.append harms⟩
  | .block buffer statements result => by
      have hhead : IsNeutral ([.word "let", .word "mut", .word buffer, .punct '=',
          .word "String"] ++ path ["new"]) := IsNeutral.plain rfl
      have hcall := hhead.append (IsNeutral.group .parenthesis IsNeutral.nil)
      have hend : IsNeutral [.punct ';'] := IsNeutral.plain rfl
      have hresult : IsNeutral [.word result] := IsNeutral.plain rfl
      have hstatements := statementLexemes_neutral hitems statements
      exact IsNeutral.group _ (((hcall.append hend).append hstatements).append hresult)

theorem armLexemes_neutral (hitems : IsNeutral items) :
    ∀ arms : List (String × ArmCode Code), IsNeutral (armLexemes items arms)
  | [] => IsNeutral.nil
  | (key, .text text) :: rest =>
      (armLexemesOf_neutral hitems key "Text" (@IsNeutral.plain [.string text] rfl)).append
        (armLexemes_neutral hitems rest)
  | (key, .lazy parameter body) :: rest =>
      (armLexemesOf_neutral hitems key "Lazy" ((lazyLexemes_neutral hitems parameter).append
        (lexemes_neutral hitems body))).append (armLexemes_neutral hitems rest)

theorem statementLexemes_neutral (hitems : IsNeutral items) :
    ∀ statements : List (Statement Code), IsNeutral (statementLexemes items statements)
  | [] => IsNeutral.nil
  | .pushText buffer text :: rest =>
      (pushLexemes_neutral buffer (@IsNeutral.plain [.string text] rfl)).append
        (statementLexemes_neutral hitems rest)
  | .pushCode buffer code :: rest => by
      have hand : IsNeutral [.punct '&'] := IsNeutral.plain rfl
      exact (pushLexemes_neutral buffer (hand.append (lexemes_neutral hitems code))).append
        (statementLexemes_neutral hitems rest)

end

/-- **The lines of code scan to its lexemes.** -/
theorem scan?_source {style : SourceStyle} (hpath : IsPath style.path.toList items)
    (hindent : IsIndent style.indent.toList) {code : Code}
    (h : ∀ name ∈ code.identifiers, IsIdentifier name) (level : Nat) :
    scan? ("\n".intercalate (code.source style level)) = some (code.lexemes items) :=
  scan?_eq (source_laid hpath hindent h level).scanAll (code.lexemes_neutral hpath.isNeutral)

end Code

end MessageTemplate
