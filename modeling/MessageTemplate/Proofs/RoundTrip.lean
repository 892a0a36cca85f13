/-
Parsing undoes printing.

Reading back is shown in the grammar, by induction on the normal form.  Parts other than
literals and sequences are single items that begin and end with a sign, so the lexer
cuts them off from what is around them and the parts of a sequence can be read one by
one (`spells_printParts`).  Two literals would be read as one, but in normal form they
do not meet.
-/
import MessageTemplate.Proofs.Printing

namespace MessageTemplate

open Grammar (Item Options Content)
open Node (PartsApart Normal)

variable {inPlural : Bool}

/-! ### Braces -/

theorem lex_append_inBraces_append (before text after : String) :
    lex (before ++ inBraces text ++ after)
      = lex before ++ .leftBrace :: lex text ++ .rightBrace :: lex after := by
  have hopen : before ++ inBraces text ++ after
      = before ++ "\x7b" ++ (text ++ "\x7d" ++ after) := by
    simp only [inBraces, String.append_assoc]
  rw [hopen, lex_leftBrace, lex_rightBrace, List.append_assoc]
  rfl

theorem lex_inBraces (text : String) :
    lex (inBraces text) = .leftBrace :: lex text ++ [.rightBrace] := by
  simpa using lex_append_inBraces_append "" text ""

/-! ### Parts that were printed -/

/-- A part that is neither literal nor sequence ends with a sign. -/
theorem lex_print_append {part : Node} (hliteral : part.isLiteral = false)
    (hsequence : part.isSequence = false) (after : String) :
    lex (part.print ++ after) = lex part.print ++ lex after := by
  cases part with
  | sequence parts => simp [Node.isSequence] at hsequence
  | literal text => simp [Node.isLiteral] at hliteral
  | numberField => exact lex_append_of_ends (c := '#') rfl "" after
  | placeholder name => exact lex_append_of_ends (c := '}') rfl _ after
  | branch choice => exact lex_append_of_ends (c := '}') rfl _ after

/-- A part that is neither literal nor sequence begins with a sign. -/
theorem lex_append_print {part : Node} (hliteral : part.isLiteral = false)
    (hsequence : part.isSequence = false) (before after : String) :
    lex (before ++ (part.print ++ after)) = lex before ++ lex (part.print ++ after) := by
  cases part with
  | sequence parts => simp [Node.isSequence] at hsequence
  | literal text => simp [Node.isLiteral] at hliteral
  | numberField => exact lex_append_of_begins (c := '#') rfl before after
  | placeholder name =>
      simp only [Node.print, inBraces, String.append_assoc]
      exact lex_append_of_begins (c := '{') rfl before _
  | branch choice =>
      simp only [Node.print, inBraces, String.append_assoc]
      exact lex_append_of_begins (c := '{') rfl before _

theorem Node.PartsApart.tail {part : Node} {rest : List Node} (h : PartsApart (part :: rest)) :
    PartsApart rest :=
  ⟨fun other hother => h.noSequence other (List.mem_cons_of_mem _ hother), h.noNeighbours.tail⟩

/-- No literal follows a literal. -/
theorem Node.PartsApart.head_rest {text : String} {rest : List Node}
    (h : PartsApart (.literal text :: rest)) : ∀ part ∈ rest.head?, part.isLiteral = false := by
  intro part hpart
  rcases (List.isChain_cons.mp h.noNeighbours).1 part hpart with hliteral | hliteral
  · simp [Node.isLiteral] at hliteral
  · exact hliteral

theorem lex_literal_append {text : String} {rest : List Node}
    (h : PartsApart (.literal text :: rest)) :
    lex (quoteText text ++ printParts rest) = lex (quoteText text) ++ lex (printParts rest) := by
  cases rest with
  | nil => simp [printParts]
  | cons part rest =>
      have hliteral := h.head_rest part (by simp)
      exact lex_append_print hliteral (h.noSequence part (by simp)) _ _

theorem spells_printParts {parts : List Node} (apart : PartsApart parts)
    (nonempty : ∀ part ∈ parts, part ≠ .literal "")
    (items : ∀ part ∈ parts, part.isLiteral = false → part.isSequence = false →
      Item inPlural (lex part.print) (.node part)) :
    Spells inPlural (lex (printParts parts)) parts := by
  induction parts with
  | nil => exact Spells.nil
  | cons part rest ih =>
      have hrest := ih apart.tail (fun other h => nonempty other (List.mem_cons_of_mem _ h))
        fun other h => items other (List.mem_cons_of_mem _ h)
      have hsequence := apart.noSequence part (by simp)
      rw [printParts]
      cases hliteral : part.isLiteral with
      | false =>
          rw [lex_print_append hliteral hsequence]
          exact Spells.node (items part (by simp) hliteral hsequence) hrest
      | true =>
          cases part with
          | literal text =>
              have htext : text ≠ "" := by
                rintro rfl
                exact nonempty (.literal "") (by simp) rfl
              rw [Node.print, lex_literal_append apart]
              exact Spells.literal (isText_quoteText text) htext hrest apart.head_rest
          | _ => simp [Node.isLiteral] at hliteral

/-! ### Options that were printed -/

/-- The space before options is a token of its own, as they begin with a key. -/
theorem lex_space_optionTexts {option : String × Node} (word : IsWord option.1)
    (rest : List (String × Node)) :
    lex (" " ++ " ".intercalate (optionTexts (option :: rest)))
      = .spaces " " :: lex (" ".intercalate (optionTexts (option :: rest))) := by
  obtain ⟨key, content⟩ := option
  simp only [optionTexts, String.intercalate_cons_append]
  exact lex_space word _

theorem Grammar.Options.content {tokens rest : List Token} {content : Node}
    {options : List (String × Node)} (h : Content inPlural tokens content)
    (tail : Options inPlural rest options) (key : String) :
    Options inPlural (.text key :: .leftBrace :: tokens ++ .rightBrace :: rest)
      ((key, content) :: options) := by
  obtain ⟨pieces, sequence, rfl⟩ := h
  exact Options.cons Blank.nil Blank.nil key sequence tail

theorem options_optionTexts {options : List (String × Node)}
    (words : ∀ option ∈ options, IsWord option.1)
    (contents : ∀ option ∈ options, Content inPlural (lex option.2.print) option.2) :
    Options inPlural (lex (" ".intercalate (optionTexts options))) options := by
  induction options with
  | nil => exact Options.nil
  | cons option rest ih =>
      obtain ⟨key, content⟩ := option
      have hkey : IsWord key := words (key, content) (by simp)
      have hcontent : Content inPlural (lex content.print) content :=
        contents (key, content) (by simp)
      have hrest := ih (fun other h => words other (List.mem_cons_of_mem _ h))
        fun other h => contents other (List.mem_cons_of_mem _ h)
      cases rest with
      | nil =>
          have hlex := lex_append_inBraces_append key content.print ""
          rw [String.append_empty, lex_word hkey] at hlex
          rw [optionTexts, optionTexts, String.intercalate_singleton, hlex]
          exact Options.content hcontent Options.nil key
      | cons next rest =>
          have hnext : IsWord next.1 := words next (by simp)
          have hne : optionTexts (next :: rest) ≠ [] := by simp [optionTexts]
          rw [optionTexts, String.intercalate_cons_of_ne_nil hne, String.append_assoc,
            lex_append_inBraces_append, lex_word hkey, lex_space_optionTexts hnext]
          exact Options.content hcontent (hrest.blank (by simp) " ") key

/-! ### Nodes that were printed -/

theorem isWord_operator (kind : BranchKind) : IsWord kind.operator := by
  cases kind <;> decide

theorem item_placeholder {name : String} (word : IsWord name) :
    Item inPlural (lex (Node.placeholder name).print) (.node (.placeholder name)) := by
  rw [Node.print, lex_inBraces, lex_word word]
  exact Item.placeholder Blank.nil Blank.nil name

theorem item_branch {choice : Branch Node} (word : IsWord choice.name)
    (nonempty : choice.options ≠ []) (distinct : choice.keys.Nodup)
    (derived : Options (choice.kind == .plural)
      (lex (" ".intercalate (optionTexts choice.options))) choice.options) :
    Item inPlural (lex (Node.branch choice).print) (.node (.branch choice)) := by
  obtain ⟨name, kind, options⟩ := choice
  have hbuilt : (Branch.empty name kind).insertAll options = ⟨name, kind, options⟩ :=
    insertAll_of_nodup (Branch.empty name kind) distinct
  have hitem : Item inPlural _ _ := Item.branch Blank.nil Blank.nil Blank.nil Blank.nil
    Blank.nil name kind nonempty derived
  rw [hbuilt] at hitem
  rw [Node.print, lex_inBraces, lex_comma, lex_comma, lex_word word,
    lex_word (isWord_operator kind)]
  simpa using hitem

/-- A tree in normal form is read back from what is written, and as one item if it is
neither literal nor sequence. -/
theorem content_print {node : Node} (h : node.Normal inPlural) :
    Content inPlural (lex node.print) node ∧
      (node.isLiteral = false → node.isSequence = false →
        Item inPlural (lex node.print) (.node node)) := by
  induction h with
  | @sequence _ parts length apart normal ih =>
      refine ⟨?_, fun _ hsequence => by simp [Node.isSequence] at hsequence⟩
      have hnonempty : ∀ part ∈ parts, part ≠ .literal "" := by
        rintro part hpart rfl
        cases normal _ hpart with
        | literal nonempty => exact nonempty rfl
      have hspells := spells_printParts apart hnonempty fun part hpart => (ih part hpart).2
      have hcontent := hspells.content
      rwa [ofParts_of_length_ne length] at hcontent
  | literal nonempty =>
      refine ⟨Content.text (isText_quoteText _) nonempty, fun hliteral => ?_⟩
      simp [Node.isLiteral] at hliteral
  | numberField => exact ⟨Content.item Item.numberField, fun _ _ => Item.numberField⟩
  | placeholder word =>
      exact ⟨Content.item (item_placeholder word), fun _ _ => item_placeholder word⟩
  | @branch _ choice word nonempty distinct words normal ih =>
      have hwords : ∀ option ∈ choice.options, IsWord option.1 :=
        fun option hoption => words option.1 (List.mem_map_of_mem hoption)
      have hoptions := options_optionTexts hwords fun option hoption => (ih option hoption).1
      have hitem : ∀ inPlural : Bool, Item inPlural _ _ :=
        fun _ => item_branch word nonempty distinct hoptions
      exact ⟨Content.item (hitem _), fun _ _ => hitem _⟩

/--
**Parsing undoes printing.**

Every tree in normal form can be written, and what is written is parsed to exactly that
tree, whenever the limit on depth is large enough.
-/
theorem parseTokens_print {node : Node} (h : node.Normal false) :
    ∃ bound, ∀ maxDepth, bound ≤ maxDepth →
      parseTokens maxDepth (lex node.print) = .ok node :=
  ⟨(lex node.print).length, fun _ hdepth =>
    Parser.parseTokens_of_template (content_print h).1 hdepth⟩

/-- Quotes beside braces that are quoted, and an option that is empty. -/
theorem parseTokens_print_quotes :
    let content : Node := .sequence [.numberField, .literal "'\x7b\x7d'"]
    let node : Node := .branch
      { name := "n", kind := .plural, options := [("one", .sequence []), ("other", content)] }
    node.Normal false ∧ ∃ bound, ∀ maxDepth, bound ≤ maxDepth →
      parseTokens maxDepth (lex node.print) = .ok node := by
  intro content node
  have hempty : Normal true (.sequence []) :=
    Normal.sequence (by simp) ⟨by simp, by simp⟩ (by simp)
  have hcontent : Normal true content := by
    refine Normal.sequence (by simp) ⟨by simp [Node.isSequence], by simp [Node.isLiteral]⟩ ?_
    simpa using ⟨Normal.numberField, Normal.literal (by decide)⟩
  have hnode : Normal false node := by
    refine Normal.branch (by decide) (by simp) (by decide) (by decide) ?_
    simpa using ⟨hempty, hcontent⟩
  exact ⟨hnode, parseTokens_print hnode⟩

end MessageTemplate
