/-
The grammar of templates.

A sequence is a list of items, and each item stands for one piece: some text, or a
node.  Texts that meet in a sequence are one text, and a text that is empty leaves
nothing behind; `Piece.assemble` makes the node of a sequence from its pieces.  A quoted
run is text whatever it holds, a doubled quote is a quote, and a hash is a number field
only directly in the content of a plural option.

The grammar is written over tokens and knows neither of a stack nor of stages.  Spaces
inside braces are `Blank` tokens that may stand between any two others.  Several
blanks in a row and empty texts do not come from the lexer, but the grammar, like the
parser, is about all lists of tokens.
-/
import MessageTemplate.Node
import MessageTemplate.Proofs.Branch
import MessageTemplate.Token
import Mathlib.Algebra.Ring.Nat

namespace MessageTemplate

/-- What one item of a sequence stands for. -/
inductive Piece where
  | text (text : String)
  | node (node : Node)

namespace Piece

/-- The part that a text makes: none if there is no text. -/
def literalPart (text : String) : List Node :=
  if text = "" then [] else [.literal text]

/-- The parts that pieces make after some text; texts that meet make one literal. -/
def partsAfter : String → List Piece → List Node
  | before, [] => literalPart before
  | before, .text more :: rest => partsAfter (before ++ more) rest
  | before, .node part :: rest => literalPart before ++ part :: partsAfter "" rest

/-- The node of a sequence.  A single part is the node by itself; without parts and with several
of them it is the sequence of the parts. -/
def assemble (pieces : List Piece) : Node :=
  match partsAfter "" pieces with
  | [] => .sequence []
  | [part] => part
  | first :: second :: rest => .sequence (first :: second :: rest)

/-- It is the node that the parser makes of the same parts. -/
theorem assemble_eq_ofParts (pieces : List Piece) :
    assemble pieces = Node.ofParts (partsAfter "" pieces) := by
  unfold assemble
  cases partsAfter "" pieces with
  | nil => rfl
  | cons first rest =>
      cases rest with
      | nil => rfl
      | cons second rest => rfl

/-- The two forms of the node of a sequence. -/
theorem assemble_cases (pieces : List Piece) :
    (∃ part, partsAfter "" pieces = [part] ∧ assemble pieces = part) ∨
      ((partsAfter "" pieces).length ≠ 1 ∧
        assemble pieces = .sequence (partsAfter "" pieces)) := by
  unfold assemble
  cases partsAfter "" pieces with
  | nil => exact Or.inr ⟨by simp, rfl⟩
  | cons first rest =>
      cases rest with
      | nil => exact Or.inl ⟨first, rfl, rfl⟩
      | cons second rest => exact Or.inr ⟨by simp, rfl⟩

end Piece

/-- The text that tokens stand for. -/
def sources (tokens : List Token) : String :=
  String.join (tokens.map Token.source)

theorem sources_cons (token : Token) (tokens : List Token) :
    sources (token :: tokens) = token.source ++ sources tokens := by
  simp [sources]

theorem sources_append (first second : List Token) :
    sources (first ++ second) = sources first ++ sources second := by
  simp [sources]

theorem toList_sources (tokens : List Token) :
    (sources tokens).toList = (tokens.map fun token => token.source.toList).flatten := by
  induction tokens with
  | nil => rfl
  | cons token tokens ih =>
      rw [sources_cons, String.toList_append, ih, List.map_cons, List.flatten_cons]

theorem length_sources (tokens : List Token) :
    (sources tokens).length = (tokens.map Token.length).sum := by
  induction tokens with
  | nil => rfl
  | cons token tokens ih =>
      rw [sources_cons, String.length_append, ih, List.map_cons, List.sum_cons]
      rfl

/-- Tokens that are spaces, all of them. -/
def Blank (tokens : List Token) : Prop :=
  ∀ token ∈ tokens, ∃ run, token = .spaces run

theorem Blank.nil : Blank [] := by
  simp [Blank]

theorem Blank.snoc {tokens : List Token} (h : Blank tokens) (run : String) :
    Blank (tokens ++ [.spaces run]) := by
  intro token htoken
  rcases List.mem_append.mp htoken with hold | hnew
  · exact h token hold
  · exact ⟨run, by simpa using hnew⟩

theorem Blank.cons {tokens : List Token} (h : Blank tokens) (run : String) :
    Blank (.spaces run :: tokens) := by
  intro token htoken
  rcases List.mem_cons.mp htoken with hnew | hold
  · exact ⟨run, hnew⟩
  · exact h token hold

namespace Grammar

mutual

/-- Tokens that are a sequence, with its pieces; `inPlural` tells whether the sequence is
the content of a plural option. -/
inductive Sequence : (inPlural : Bool) → List Token → List Piece → Prop
  | nil {inPlural : Bool} : Sequence inPlural [] []
  | cons {inPlural : Bool} {tokens rest : List Token} {piece : Piece} {pieces : List Piece}
      (head : Item inPlural tokens piece) (tail : Sequence inPlural rest pieces) :
      Sequence inPlural (tokens ++ rest) (piece :: pieces)

/-- Tokens that are one item of a sequence. -/
inductive Item : (inPlural : Bool) → List Token → Piece → Prop
  | comma {inPlural : Bool} : Item inPlural [.comma] (.text ",")
  | spaces {inPlural : Bool} (run : String) : Item inPlural [.spaces run] (.text run)
  | text {inPlural : Bool} (run : String) : Item inPlural [.text run] (.text run)
  | numberField : Item true [.hash] (.node .numberField)
  | hash : Item false [.hash] (.text "#")
  | doubledQuote {inPlural : Bool} : Item inPlural [.quote, .quote] (.text "'")
  | quoted {inPlural : Bool} {tokens : List Token} (nonempty : tokens ≠ [])
      (unquoted : Token.quote ∉ tokens) :
      Item inPlural (.quote :: tokens ++ [.quote]) (.text (sources tokens))
  | placeholder {inPlural : Bool} {b₁ b₂ : List Token} (blank₁ : Blank b₁) (blank₂ : Blank b₂)
      (name : String) :
      Item inPlural (.leftBrace :: b₁ ++ .text name :: b₂ ++ [.rightBrace])
        (.node (.placeholder name))
  | branch {inPlural : Bool} {b₁ b₂ b₃ b₄ b₅ tokens : List Token}
      {options : List (String × Node)} (blank₁ : Blank b₁) (blank₂ : Blank b₂)
      (blank₃ : Blank b₃) (blank₄ : Blank b₄) (blank₅ : Blank b₅) (name : String)
      (kind : BranchKind) (nonempty : options ≠ [])
      (derived : Options (kind == .plural) tokens options) :
      Item inPlural
        (.leftBrace :: b₁ ++ .text name :: b₂ ++ .comma :: b₃ ++ .text kind.operator :: b₄ ++
          .comma :: tokens ++ b₅ ++ [.rightBrace])
        (.node (.branch ((Branch.empty name kind).insertAll options)))

/-- Tokens that are options, with the keys and contents in the order of writing. -/
inductive Options : (inPlural : Bool) → List Token → List (String × Node) → Prop
  | nil {inPlural : Bool} : Options inPlural [] []
  | cons {inPlural : Bool} {b₁ b₂ tokens rest : List Token} {pieces : List Piece}
      {options : List (String × Node)} (blank₁ : Blank b₁) (blank₂ : Blank b₂) (key : String)
      (content : Sequence inPlural tokens pieces) (tail : Options inPlural rest options) :
      Options inPlural
        (b₁ ++ .text key :: b₂ ++ .leftBrace :: tokens ++ .rightBrace :: rest)
        ((key, Piece.assemble pieces) :: options)

end

/-- Tokens that are a sequence, with its tree. -/
def Content (inPlural : Bool) (tokens : List Token) (node : Node) : Prop :=
  ∃ pieces, Sequence inPlural tokens pieces ∧ node = Piece.assemble pieces

/-- Tokens that are a template, with its tree. -/
def Template (tokens : List Token) (node : Node) : Prop :=
  Content false tokens node

variable {inPlural : Bool}

theorem Sequence.append {first second : List Token} {pieces more : List Piece}
    (hfirst : Sequence inPlural first pieces) (hsecond : Sequence inPlural second more) :
    Sequence inPlural (first ++ second) (pieces ++ more) := by
  induction pieces generalizing first with
  | nil =>
      cases hfirst
      exact hsecond
  | cons piece pieces ih =>
      cases hfirst with
      | cons head tail =>
          rw [List.append_assoc]
          exact Sequence.cons head (ih tail)

theorem Sequence.single {tokens : List Token} {piece : Piece}
    (item : Item inPlural tokens piece) : Sequence inPlural tokens [piece] := by
  simpa using Sequence.cons item Sequence.nil

/-- One more item at the end. -/
theorem Sequence.snoc {tokens more : List Token} {pieces : List Piece} {piece : Piece}
    (sequence : Sequence inPlural tokens pieces) (item : Item inPlural more piece) :
    Sequence inPlural (tokens ++ more) (pieces ++ [piece]) :=
  sequence.append (Sequence.single item)

/-- One more option at the end. -/
theorem Options.snoc {tokens b₁ b₂ content : List Token} {pieces : List Piece}
    {options : List (String × Node)} (h : Options inPlural tokens options)
    (blank₁ : Blank b₁) (blank₂ : Blank b₂) (key : String)
    (sequence : Sequence inPlural content pieces) :
    Options inPlural
      (tokens ++ (b₁ ++ .text key :: b₂ ++ .leftBrace :: content ++ [.rightBrace]))
      (options ++ [(key, Piece.assemble pieces)]) := by
  induction options generalizing tokens with
  | nil =>
      cases h
      exact Options.cons blank₁ blank₂ key sequence Options.nil
  | cons option options ih =>
      cases h with
      | cons hb₁ hb₂ key' content' tail =>
          have := Options.cons hb₁ hb₂ key' content' (ih tail)
          simpa using this

/-- Spaces before options. -/
theorem Options.blank {tokens : List Token} {options : List (String × Node)}
    (h : Options inPlural tokens options) (nonempty : options ≠ []) (run : String) :
    Options inPlural (.spaces run :: tokens) options := by
  cases h with
  | nil => exact absurd rfl nonempty
  | cons blank₁ blank₂ key content tail =>
      exact Options.cons (blank₁.cons run) blank₂ key content tail

end Grammar

end MessageTemplate
