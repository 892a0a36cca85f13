/-
The parser makes trees in normal form.

In normal form a sequence is flat and keeps its literals apart (`PartsApart`), it never
has exactly one part, no literal is empty, a branch has options with distinct keys, what
names something is a word, and a number field stands only where the nearest branch
around it is a plural.  The last of these is the one fact about a node that depends on
where the node is, so `Normal` carries it as a flag from a branch to its contents.

The proof follows the grammar and not the machine: what a derivation stands for is in
normal form whenever the texts among its tokens are words, and the lexer makes no other
texts.
-/
import MessageTemplate.Proofs.Lexer.Canonical
import MessageTemplate.Proofs.Parser.Sound

namespace MessageTemplate

open Grammar (Sequence Item Options)

namespace Node

/-- Whether a node is a sequence. -/
def isSequence : Node → Bool
  | .sequence _ => true
  | _ => false

/-- Whether a node is a literal. -/
def isLiteral : Node → Bool
  | .literal _ => true
  | _ => false

/-- Parts of a sequence that is flat and has no two literals side by side. -/
structure PartsApart (parts : List Node) : Prop where
  noSequence : ∀ part ∈ parts, part.isSequence = false
  noNeighbours : parts.IsChain fun a b => a.isLiteral = false ∨ b.isLiteral = false

/-- A tree in normal form; `inPlural` tells whether the nearest branch around it is a
plural. -/
inductive Normal : (inPlural : Bool) → Node → Prop
  | sequence {inPlural : Bool} {parts : List Node} (length : parts.length ≠ 1)
      (apart : PartsApart parts) (normal : ∀ part ∈ parts, Normal inPlural part) :
      Normal inPlural (.sequence parts)
  | literal {inPlural : Bool} {text : String} (nonempty : text ≠ "") :
      Normal inPlural (.literal text)
  | numberField : Normal true .numberField
  | placeholder {inPlural : Bool} {name : String} (word : IsWord name) :
      Normal inPlural (.placeholder name)
  | branch {inPlural : Bool} {choice : Branch Node} (word : IsWord choice.name)
      (nonempty : choice.options ≠ []) (distinct : choice.keys.Nodup)
      (words : ∀ key ∈ choice.keys, IsWord key)
      (normal : ∀ option ∈ choice.options, Normal (choice.kind == .plural) option.2) :
      Normal inPlural (.branch choice)

namespace Normal

variable {inPlural : Bool}

theorem of_mem_parts {parts : List Node} (h : Normal inPlural (.sequence parts)) :
    ∀ part ∈ parts, Normal inPlural part := by
  cases h with
  | sequence _ _ normal => exact normal

theorem of_mem_options {choice : Branch Node} (h : Normal inPlural (.branch choice)) :
    ∀ option ∈ choice.options, Normal (choice.kind == .plural) option.2 := by
  cases h with
  | branch _ _ _ _ normal => exact normal

/-- A number field stands only in plural branches. -/
theorem inPlural_of_numberField (h : Normal inPlural .numberField) : inPlural = true := by
  cases h
  rfl

end Normal

end Node

open Node (PartsApart Normal)

variable {inPlural : Bool}

/-! ### Putting pieces together -/

namespace Piece

/-- A piece that may stand in a sequence: a text, or a node in normal form that is no
sequence and no literal. -/
def Normal (inPlural : Bool) : Piece → Prop
  | .text _ => True
  | .node part => part.isSequence = false ∧ part.isLiteral = false ∧ part.Normal inPlural

/-- Each part is a literal that is not empty, or one of the nodes. -/
theorem mem_partsAfter {pieces : List Piece} {before : String} {part : Node}
    (h : part ∈ partsAfter before pieces) :
    (∃ text, text ≠ "" ∧ part = .literal text) ∨ .node part ∈ pieces := by
  have hliteral : ∀ {text : String}, part ∈ literalPart text →
      ∃ text, text ≠ "" ∧ part = .literal text := by
    intro text hpart
    unfold literalPart at hpart
    split at hpart
    · simp at hpart
    · exact ⟨text, ‹_›, List.mem_singleton.mp hpart⟩
  induction pieces generalizing before with
  | nil => exact Or.inl (hliteral h)
  | cons piece pieces ih =>
      cases piece with
      | text more => exact (ih h).imp_right (List.mem_cons_of_mem _)
      | node node =>
          rcases List.mem_append.mp h with hbefore | hpart
          · exact Or.inl (hliteral hbefore)
          · rcases List.mem_cons.mp hpart with rfl | hpart
            · exact Or.inr List.mem_cons_self
            · exact (ih hpart).imp_right (List.mem_cons_of_mem _)

theorem partsAfter_normal {pieces : List Piece} (h : ∀ piece ∈ pieces, piece.Normal inPlural)
    (before : String) :
    ∀ part ∈ partsAfter before pieces, part.isSequence = false ∧ part.Normal inPlural := by
  intro part hpart
  rcases mem_partsAfter hpart with ⟨text, hne, rfl⟩ | hnode
  · exact ⟨rfl, Normal.literal hne⟩
  · obtain ⟨hsequence, -, hnormal⟩ : Piece.Normal inPlural (.node part) := h _ hnode
    exact ⟨hsequence, hnormal⟩

/-- Texts that meet are one literal, so no two literals are side by side. -/
theorem partsAfter_noNeighbours {pieces : List Piece}
    (h : ∀ piece ∈ pieces, piece.Normal inPlural) (before : String) :
    (partsAfter before pieces).IsChain fun a b => a.isLiteral = false ∨ b.isLiteral = false := by
  induction pieces generalizing before with
  | nil =>
      change (literalPart before).IsChain _
      unfold literalPart
      split <;> simp
  | cons piece pieces ih =>
      have hrest := ih fun p hp => h p (List.mem_cons_of_mem _ hp)
      cases piece with
      | text more => exact hrest (before ++ more)
      | node node =>
          have hnode : Piece.Normal inPlural (.node node) := h _ (by simp)
          have hchain : (node :: partsAfter "" pieces).IsChain
              fun a b => a.isLiteral = false ∨ b.isLiteral = false :=
            List.isChain_cons.mpr ⟨fun _ _ => Or.inl hnode.2.1, hrest ""⟩
          change (literalPart before ++ node :: partsAfter "" pieces).IsChain _
          unfold literalPart
          split
          · exact hchain
          · exact List.isChain_cons_cons.mpr ⟨Or.inr hnode.2.1, hchain⟩

/-- The node of a sequence is in normal form if its pieces are. -/
theorem assemble_normal {pieces : List Piece} (h : ∀ piece ∈ pieces, piece.Normal inPlural) :
    (assemble pieces).Normal inPlural := by
  have hparts := partsAfter_normal h ""
  have happart : PartsApart (partsAfter "" pieces) :=
    ⟨fun part hpart => (hparts part hpart).1, partsAfter_noNeighbours h ""⟩
  obtain ⟨part, hpart, hnode⟩ | ⟨hlength, hnode⟩ := assemble_cases pieces
  · rw [hnode]
    exact (hparts part (by simp [hpart])).2
  · rw [hnode]
    exact Normal.sequence hlength happart fun part hpart => (hparts part hpart).2

end Piece

/-- A branch is in normal form if the options it was made from are words with contents in
normal form. -/
theorem insertAll_normal {name : String} (kind : BranchKind) {options : List (String × Node)}
    (word : IsWord name) (nonempty : options ≠ [])
    (normal : ∀ option ∈ options, IsWord option.1 ∧ option.2.Normal (kind == .plural)) :
    Normal inPlural (.branch ((Branch.empty name kind).insertAll options)) := by
  have hmem : ∀ option ∈ ((Branch.empty name kind).insertAll options).options,
      IsWord option.1 ∧ option.2.Normal (kind == .plural) := by
    intro option hoption
    rcases mem_insertAll hoption with hnew | hold
    · exact normal option hnew
    · simp [Branch.empty] at hold
  refine Normal.branch ?_ (insertAll_ne_nil _ nonempty) (insertAll_nodup ?_ options) ?_ ?_
  · rw [insertAll_name]
    exact word
  · simp [Branch.keys, Branch.empty]
  · intro key hkey
    obtain ⟨option, hoption, rfl⟩ := List.mem_map.mp hkey
    exact (hmem option hoption).1
  · rw [insertAll_kind]
    exact fun option hoption => (hmem option hoption).2

/-! ### Along a derivation -/

/-- Tokens whose texts are words. -/
def TextsAreWords (tokens : List Token) : Prop :=
  ∀ run, Token.text run ∈ tokens → IsWord run

theorem TextsAreWords.mono {tokens more : List Token} (h : TextsAreWords more)
    (hsub : ∀ token ∈ tokens, token ∈ more) : TextsAreWords tokens :=
  fun run hrun => h run (hsub _ hrun)

namespace Grammar

mutual

theorem Sequence.normal {inPlural : Bool} {tokens : List Token} {pieces : List Piece} :
    Sequence inPlural tokens pieces → TextsAreWords tokens →
      ∀ piece ∈ pieces, piece.Normal inPlural
  | .nil, _ => by simp
  | .cons head tail, words => by
      have hhead := head.normal (words.mono fun _ h => List.mem_append_left _ h)
      have htail := tail.normal (words.mono fun _ h => List.mem_append_right _ h)
      exact List.forall_mem_cons.mpr ⟨hhead, htail⟩

theorem Item.normal {inPlural : Bool} {tokens : List Token} {piece : Piece} :
    Item inPlural tokens piece → TextsAreWords tokens → piece.Normal inPlural
  | .comma, _ => trivial
  | .spaces _, _ => trivial
  | .text _, _ => trivial
  | .numberField, _ => ⟨rfl, rfl, Normal.numberField⟩
  | .hash, _ => trivial
  | .doubledQuote, _ => trivial
  | .quoted _ _, _ => trivial
  | .placeholder _ _ name, words =>
      ⟨rfl, rfl, Normal.placeholder (words name (by simp))⟩
  | .branch _ _ _ _ _ name kind nonempty derived, words =>
      ⟨rfl, rfl, insertAll_normal kind (words name (by simp)) nonempty
        (derived.normal (words.mono fun token h => by simp [h]))⟩

theorem Options.normal {inPlural : Bool} {tokens : List Token}
    {options : List (String × Node)} :
    Options inPlural tokens options → TextsAreWords tokens →
      ∀ option ∈ options, IsWord option.1 ∧ option.2.Normal inPlural
  | .nil, _ => by simp
  | .cons _ _ key content tail, words => by
      have hcontent := content.normal (words.mono fun token h => by simp [h])
      have htail := tail.normal (words.mono fun token h => by simp [h])
      exact List.forall_mem_cons.mpr
        ⟨⟨words key (by simp), Piece.assemble_normal hcontent⟩, htail⟩

end

end Grammar

/--
**What is parsed is in normal form.**

Whatever the limit on depth, the tree of a template that is accepted is in normal form.
-/
theorem parseTokens_normal {maxDepth : Nat} {template : String} {node : Node}
    (h : parseTokens maxDepth (lex template) = .ok node) : node.Normal false := by
  obtain ⟨pieces, sequence, rfl⟩ := Parser.template_of_parseTokens h
  exact Piece.assemble_normal (sequence.normal fun _ => isWord_of_mem_lex)

/-- A key that comes again, and quoted text that meets a comma and a space. -/
theorem parseTokens_normal_replaced :
    let node : Node := .branch
      { name := "n", kind := .plural, options :=
          [("one", .literal "b"), ("other", .sequence [.literal "#, ", .numberField])] }
    parseTokens 3 (lex "\x7bn,plural,one\x7ba\x7d other\x7b'#', #\x7d one\x7bb\x7d\x7d")
        = .ok node ∧
      node.Normal false := by
  intro node
  have h : parseTokens 3
      (lex "\x7bn,plural,one\x7ba\x7d other\x7b'#', #\x7d one\x7bb\x7d\x7d") = .ok node := rfl
  exact ⟨h, parseTokens_normal h⟩

end MessageTemplate
