/-
What the source of code is put together from.

Source has texts of its own, the same for all templates, and it has string literals.  Nothing
else comes into it: the names, keys and texts of a template stand in literals only
(`Code.isAssembled_source`).
-/
import MessageTemplate.Proofs.Compiled.Identifiers
import MessageTemplate.Compiled.Layout

namespace MessageTemplate

/-- **A text that is put together from texts of a list and from string literals.** -/
def IsAssembled (texts : List String) (text : String) : Prop :=
  ∃ pieces : List String, String.join pieces = text ∧
    ∀ piece ∈ pieces, piece ∈ texts ∨ ∃ value, piece = SourceStyle.literal value

namespace IsAssembled

variable {texts : List String} {text other : String}

theorem empty : IsAssembled texts "" :=
  ⟨[], rfl, by simp⟩

theorem of_mem (h : text ∈ texts) : IsAssembled texts text :=
  ⟨[text], by simp, by simp [h]⟩

theorem literal (value : String) : IsAssembled texts (SourceStyle.literal value) :=
  ⟨[SourceStyle.literal value], by simp, List.forall_mem_singleton.mpr (.inr ⟨value, rfl⟩)⟩

theorem append (h : IsAssembled texts text) (hother : IsAssembled texts other) :
    IsAssembled texts (text ++ other) := by
  obtain ⟨pieces, rfl, hpieces⟩ := h
  obtain ⟨others, rfl, hothers⟩ := hother
  exact ⟨pieces ++ others, String.join_append, List.forall_mem_append.mpr ⟨hpieces, hothers⟩⟩

theorem join {list : List String} (h : ∀ text ∈ list, IsAssembled texts text) :
    IsAssembled texts (String.join list) := by
  induction list with
  | nil => exact empty
  | cons text list ih =>
      rw [List.forall_mem_cons] at h
      rw [String.join_cons]
      exact h.1.append (ih h.2)

/-- Texts side by side. -/
theorem of_pieces (pieces : List String) (htext : text = String.join pieces)
    (h : ∀ piece ∈ pieces, IsAssembled texts piece) : IsAssembled texts text :=
  htext ▸ join h

theorem intercalate {separator : String} (hseparator : IsAssembled texts separator)
    {list : List String} (h : ∀ text ∈ list, IsAssembled texts text) :
    IsAssembled texts (separator.intercalate list) := by
  induction list with
  | nil => exact empty
  | cons text list ih =>
      rw [List.forall_mem_cons] at h
      cases list with
      | nil => simpa using h.1
      | cons next list =>
          rw [String.intercalate_cons_cons]
          exact (h.1.append hseparator).append (ih h.2)

end IsAssembled

/-! ### Lines -/

variable {texts : List String}

theorem isAssembled_wrapLast {after : String} {lines : List String}
    (hafter : IsAssembled texts after) (h : ∀ line ∈ lines, IsAssembled texts line) :
    ∀ line ∈ wrapLast after lines, IsAssembled texts line := by
  induction lines with
  | nil => simp [wrapLast]
  | cons line lines ih =>
      rw [List.forall_mem_cons] at h
      cases lines with
      | nil => simpa [wrapLast] using h.1.append hafter
      | cons next lines =>
          rw [wrapLast, List.forall_mem_cons]
          · exact ⟨h.1, ih h.2⟩
          · simp

theorem isAssembled_wrapLines {before after : String} {lines : List String}
    (hbefore : IsAssembled texts before) (hafter : IsAssembled texts after)
    (h : ∀ line ∈ lines, IsAssembled texts line) :
    ∀ line ∈ wrapLines before after lines, IsAssembled texts line := by
  have hlast := isAssembled_wrapLast hafter h
  unfold wrapLines
  cases hlines : wrapLast after lines with
  | nil => simp
  | cons line others =>
      rw [hlines, List.forall_mem_cons] at hlast
      exact List.forall_mem_cons.mpr ⟨hbefore.append hlast.1, hlast.2⟩

/-! ### Code -/

/-- The texts that source in a style has of its own, apart from identifiers. -/
def SourceStyle.ownTexts (style : SourceStyle) : List String :=
  [style.path, style.indent, "::", "text", "number", "resolve_plural", "resolve_select", "Arm",
   "DiagnosticSink", "(", ", ", ")", "String::from(", "format!(", ", &[", "])", "\x7b",
   "let mut ", " = String::new();", "\x7d", "::Text(", ")),", "::Lazy(&|", "_", ": &mut dyn ",
   "| ", ".push_str(", ".push_str(&", ");"]

section

variable {style : SourceStyle} (own : ∀ text ∈ style.ownTexts, IsAssembled texts text)

include own

theorem SourceStyle.isAssembled_indentation (level : Nat) :
    IsAssembled texts (style.indentation level) := by
  refine .join fun text htext => ?_
  obtain rfl := (List.mem_replicate.mp htext).2
  exact own _ (by simp [ownTexts])

/-- The items that code calls. -/
theorem SourceStyle.isAssembled_item : ∀ name ∈ style.ownTexts,
    IsAssembled texts (style.item name) := by
  intro name h
  have hname := own name h
  simp only [ownTexts, List.forall_mem_cons] at own
  refine .of_pieces [style.path, "::", name] (by simp [item, String.append_assoc]) ?_
  simp [own, hname]

theorem Call.isAssembled_source {call : Call}
    (h : ∀ name ∈ call.identifiers, IsAssembled texts name) :
    IsAssembled texts (call.source style) := by
  have items := style.isAssembled_item own
  simp only [SourceStyle.ownTexts, List.forall_mem_cons] at own items
  cases call with
  | text values sink name =>
      simp only [identifiers, List.forall_mem_cons] at h
      refine .of_pieces [style.item "text", "(", values, ", ", sink, ", ",
        SourceStyle.literal name, ")"] (by simp [source, String.append_assoc]) ?_
      simp [own, items, h, IsAssembled.literal]
  | number values name =>
      simp only [identifiers, List.forall_mem_cons] at h
      refine .of_pieces [style.item "number", "(", values, ", ", SourceStyle.literal name, ")"]
        (by simp [source, String.append_assoc]) ?_
      simp [own, items, h, IsAssembled.literal]

theorem Flat.isAssembled_source {flat : Flat}
    (h : ∀ name ∈ flat.identifiers, IsAssembled texts name) :
    IsAssembled texts (flat.source style) := by
  have hcalls : IsAssembled texts (", ".intercalate (flat.holes.map (·.1.source style))) := by
    refine .intercalate (own ", " (by simp [SourceStyle.ownTexts])) fun text htext => ?_
    obtain ⟨hole, hhole, rfl⟩ := List.mem_map.mp htext
    exact Call.isAssembled_source own fun name hname =>
      h name (List.mem_flatMap.mpr ⟨hole, hhole, hname⟩)
  simp only [SourceStyle.ownTexts, List.forall_mem_cons] at own
  unfold source
  split
  · refine .of_pieces ["String::from(", SourceStyle.literal flat.first, ")"]
      (by simp [String.append_assoc]) ?_
    simp [own, IsAssembled.literal]
  · refine .of_pieces ["format!(", SourceStyle.literal flat.formatString, ", ",
      ", ".intercalate (flat.holes.map (·.1.source style)), ")"] (by simp [String.append_assoc]) ?_
    simp [own, IsAssembled.literal, hcalls]

namespace Code

mutual

/-- **The lines of code are put together from texts of their own and from literals.** -/
theorem isAssembled_lines : ∀ (code : Code) (level : Nat),
    (∀ name ∈ code.identifiers, IsAssembled texts name) →
      ∀ line ∈ code.lines style level, IsAssembled texts line
  | .flat pieces, level, h => by
      simpa [lines] using pieces.isAssembled_source own h
  | .resolve kind values sink name arms, level, h => by
      simp only [identifiers, List.forall_mem_cons] at h
      have harms := isAssembled_armLines arms level h.2.2
      have hindentation := style.isAssembled_indentation own level
      have items := style.isAssembled_item own
      simp only [SourceStyle.ownTexts, List.forall_mem_cons] at own items
      have hresolver : IsAssembled texts (style.item kind.resolver) := by
        cases kind <;> simp [BranchKind.resolver, items]
      have hhead : IsAssembled texts (style.item kind.resolver ++ "(" ++ values ++ ", " ++ sink ++
          ", " ++ SourceStyle.literal name ++ ", &[") := by
        refine .of_pieces [style.item kind.resolver, "(", values, ", ", sink, ", ",
          SourceStyle.literal name, ", &["] (by simp [String.append_assoc]) ?_
        simp [own, h, hresolver, IsAssembled.literal]
      have hend : IsAssembled texts (style.indentation level ++ "])") :=
        hindentation.append (by simp [own])
      rw [lines, List.forall_mem_append, List.forall_mem_cons]
      exact ⟨⟨hhead, harms⟩, by simpa using hend⟩
  | .block buffer statements result, level, h => by
      simp only [identifiers, List.forall_mem_cons] at h
      have hstatements := isAssembled_statementLines statements level h.2.2
      have hindentation := style.isAssembled_indentation own
      simp only [SourceStyle.ownTexts, List.forall_mem_cons] at own
      have hdeclaration : IsAssembled texts
          (style.indentation (level + 1) ++ "let mut " ++ buffer ++ " = String::new();") := by
        refine .of_pieces [style.indentation (level + 1), "let mut ", buffer, " = String::new();"]
          (by simp [String.append_assoc]) ?_
        simp [own, h, hindentation]
      have hresult := (hindentation (level + 1)).append h.2.1
      have hend : IsAssembled texts (style.indentation level ++ "\x7d") :=
        (hindentation level).append (by simp [own])
      rw [lines, List.forall_mem_append, List.forall_mem_cons, List.forall_mem_cons]
      exact ⟨⟨by simp [own], hdeclaration, hstatements⟩, by simp [hresult, hend]⟩

theorem isAssembled_armLines : ∀ (arms : List (String × ArmCode Code)) (level : Nat),
    (∀ name ∈ armIdentifiers arms, IsAssembled texts name) →
      ∀ line ∈ armLines style arms level, IsAssembled texts line
  | [], level, h => by simp [armLines]
  | (key, .text text) :: rest, level, h => by
      have hrest := isAssembled_armLines rest level h
      have hindentation := style.isAssembled_indentation own (level + 1)
      have items := style.isAssembled_item own
      simp only [SourceStyle.ownTexts, List.forall_mem_cons] at own items
      rw [armLines, List.forall_mem_cons]
      refine ⟨.of_pieces [style.indentation (level + 1), "(", SourceStyle.literal key, ", ",
        style.item "Arm", "::Text(", SourceStyle.literal text, ")),"]
        (by simp [String.append_assoc]) ?_, hrest⟩
      simp [own, items, hindentation, IsAssembled.literal]
  | (key, .lazy parameter body) :: rest, level, h => by
      simp only [armIdentifiers, List.forall_mem_append] at h
      have hrest := isAssembled_armLines rest level h.2
      have hbody := isAssembled_lines body (level + 1) h.1.2
      have hindentation := style.isAssembled_indentation own (level + 1)
      have items := style.isAssembled_item own
      simp only [SourceStyle.ownTexts, List.forall_mem_cons] at own items
      have hparameter : IsAssembled texts (parameter.getD "_") := by
        cases parameter with
        | none => simp [own]
        | some name => exact h.1.1 name (by simp)
      rw [armLines, List.forall_mem_append]
      refine ⟨isAssembled_wrapLines ?_ (by simp [own]) hbody, hrest⟩
      refine .of_pieces [style.indentation (level + 1), "(", SourceStyle.literal key, ", ",
        style.item "Arm", "::Lazy(&|", parameter.getD "_", ": &mut dyn ",
        style.item "DiagnosticSink", "| "] (by simp [lazyHead, String.append_assoc]) ?_
      simp [own, items, hindentation, hparameter, IsAssembled.literal]

theorem isAssembled_statementLines : ∀ (statements : List (Statement Code)) (level : Nat),
    (∀ name ∈ statementIdentifiers statements, IsAssembled texts name) →
      ∀ line ∈ statementLines style statements level, IsAssembled texts line
  | [], level, h => by simp [statementLines]
  | .pushText buffer text :: rest, level, h => by
      simp only [statementIdentifiers, List.forall_mem_cons] at h
      have hrest := isAssembled_statementLines rest level h.2
      have hindentation := style.isAssembled_indentation own (level + 1)
      simp only [SourceStyle.ownTexts, List.forall_mem_cons] at own
      rw [statementLines, List.forall_mem_cons]
      refine ⟨.of_pieces [style.indentation (level + 1), buffer, ".push_str(",
        SourceStyle.literal text, ");"] (by simp [String.append_assoc]) ?_, hrest⟩
      simp [own, h, hindentation, IsAssembled.literal]
  | .pushCode buffer code :: rest, level, h => by
      simp only [statementIdentifiers, List.cons_append, List.forall_mem_cons,
        List.forall_mem_append] at h
      have hrest := isAssembled_statementLines rest level h.2.2
      have hcode := isAssembled_lines code (level + 1) h.2.1
      have hindentation := style.isAssembled_indentation own (level + 1)
      simp only [SourceStyle.ownTexts, List.forall_mem_cons] at own
      rw [statementLines, List.forall_mem_append]
      refine ⟨isAssembled_wrapLines ?_ (by simp [own]) hcode, hrest⟩
      refine .of_pieces [style.indentation (level + 1), buffer, ".push_str(&"]
        (by simp [String.append_assoc]) ?_
      simp [own, h, hindentation]

end

/-- The source of code at a level is put together in the same way. -/
theorem isAssembled_source {code : Code} (h : ∀ name ∈ code.identifiers, IsAssembled texts name)
    (level : Nat) : ∀ line ∈ code.source style level, IsAssembled texts line :=
  isAssembled_wrapLines (style.isAssembled_indentation own level) .empty
    (isAssembled_lines own code level h)

end Code

end

end MessageTemplate
