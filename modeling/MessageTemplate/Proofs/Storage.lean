/-
Entries say what the templates they come from say.

A template is stored as text, as its tree or as a compiled function.  Text is taken only
for a tree that is nothing but literals, and such a tree renders to its text whatever the
values are.  A compiled function has one oddity: if the tree reads no value, its
parameters have other names than its body uses.  That does no harm, because the code of
such a tree makes no call and so runs alike in every scope (`run?_of_occurringNames`).
-/
import MessageTemplate.MessageBlock
import MessageTemplate.Proofs.Compiled.Equivalence
import MessageTemplate.Proofs.Compiled.Places
import MessageTemplate.Proofs.Names

namespace MessageTemplate

section

variable {σ : Type} (sink : Sink σ) (values : Values)

namespace Node

/-! ### Trees that are nothing but literals -/

theorem literalTexts_cons {part : Node} {rest : List Node} {text : String}
    (h : literalTexts (part :: rest) = some text) :
    ∃ first texts, part.literalText = some first ∧ literalTexts rest = some texts ∧
      text = first ++ texts := by
  simp only [literalTexts, Option.bind_eq_bind, Option.bind_eq_some_iff] at h
  obtain ⟨first, hfirst, texts, htexts, htext⟩ := h
  exact ⟨first, texts, hfirst, htexts, (Option.some.inj htext).symm⟩

/-- A tree that is nothing but literals renders to its text. -/
theorem renderUnder_of_literalText (node : Node) : ∀ {text : String} (number : Option Binary64),
    node.literalText = some text → node.renderUnder sink values number = pure text := by
  induction node using treeInduction with
  | sequence parts ih =>
      intro text number h
      rw [literalText] at h
      rw [renderUnder]
      induction parts generalizing text with
      | nil => rw [renderParts, Option.some.inj h]
      | cons part rest ihRest =>
          rw [List.forall_mem_cons] at ih
          obtain ⟨first, texts, hfirst, htexts, rfl⟩ := literalTexts_cons h
          rw [renderParts, ih.1 number hfirst, ihRest ih.2 htexts]
          rfl
  | literal text =>
      intro text number h
      rw [renderUnder, Option.some.inj h]
  | numberField => simp [literalText]
  | placeholder name => simp [literalText]
  | branch choice => simp [literalText]

end Node

/-! ### Trees that read no value -/

namespace Code

variable {names : CodeNames}

theorem append_holes {a b : Flat} (ha : a.holes = []) (hb : b.holes = []) :
    (a.append b).holes = [] := by
  simp [Flat.append, ha, hb, Flat.appendText]

/-- The code of a tree that reads no value, outside any branch, makes no call. -/
theorem flatten_of_occurringNames (node : Node) : node.occurringNames = [] →
    node.containsBranch = false ∧ (flatten names none node).holes = [] := by
  induction node using Node.treeInduction with
  | sequence parts ih =>
      intro h
      rw [Node.occurringNames] at h
      rw [Node.containsBranch, flatten]
      induction parts with
      | nil => simp [Node.anyContainsBranch, flattenParts, Flat.empty]
      | cons part rest ihRest =>
          rw [List.forall_mem_cons] at ih
          have hnames : part.occurringNames = [] ∧ Node.partNames rest = [] := by
            simpa [Node.partNames] using h
          obtain ⟨hpart, hpartHoles⟩ := ih.1 hnames.1
          obtain ⟨hrest, hrestHoles⟩ := ihRest ih.2 hnames.2
          refine ⟨by simp [Node.anyContainsBranch, hpart, hrest], ?_⟩
          rw [flattenParts]
          exact append_holes hpartHoles hrestHoles
  | literal text => simp [Node.containsBranch, flatten, Flat.ofText]
  | numberField => simp [Node.containsBranch, flatten, Flat.ofText]
  | placeholder name => simp [Node.occurringNames]
  | branch choice => simp [Node.occurringNames]

/-- The code of a tree that reads no value runs alike in every scope. -/
theorem run?_of_occurringNames (names : CodeNames) {node : Node} (h : node.occurringNames = [])
    (scope scope' : Scope) :
    (ofNode names node none).run? sink values scope
      = (ofNode names node none).run? sink values scope' := by
  obtain ⟨hbranch, hholes⟩ := @flatten_of_occurringNames names node h
  have htext : (flatten names none node).isText = true := by simp [Flat.isText, hholes]
  rw [ofNode_of_containsBranch none hbranch, run?, run?, Flat.run?_of_isText htext,
    Flat.run?_of_isText htext]

end Code

/-! ### Entries -/

theorem CodeNames.standard_distinct : CodeNames.standard.Distinct :=
  ⟨by decide, by decide, by decide⟩

/-- The body of a compiled function runs under its parameters, also if they are not the names
that the body was compiled with. -/
theorem CompiledFunction.body_run (node : Node) :
    (ofNode node).body.run? sink values
        (Scope.ofParameters (ofNode node).values (ofNode node).sink)
      = some (node.render sink values) := by
  have hrun : (node.compile CodeNames.standard).run? sink values
      (Scope.ofParameters "values" "sink") = some (node.render sink values) :=
    Code.ofNode_run CodeNames.standard_distinct node none _
      (Scope.Serves.ofParameters CodeNames.standard_distinct)
  by_cases hnames : node.valueNames = []
  · -- Nothing is looked up then.
    have hscope := Code.run?_of_occurringNames sink values CodeNames.standard
      (node.valueNames_eq_nil_iff.mp hnames) (Scope.ofParameters "_values" "_sink")
    simp only [ofNode, hnames, List.isEmpty_nil, if_true]
    exact (hscope _).trans hrun
  · have hne : node.valueNames.isEmpty = false := by simpa using hnames
    simpa only [ofNode, hne, Bool.false_eq_true, if_false] using hrun

/-- **A compiled function says what its tree says.** -/
theorem CompiledFunction.call_ofNode (node : Node) :
    (CompiledFunction.ofNode node).call sink values = node.render sink values := by
  rw [call, body_run, Option.getD_some]

/-- **A stored tree says what the tree says**, as text or as it is. -/
theorem Entry.ofNode_render (node : Node) :
    (Entry.ofNode node).render sink values = node.render sink values := by
  unfold Entry.ofNode
  cases htext : node.literalText with
  | none => rfl
  | some text => exact (node.renderUnder_of_literalText sink values none htext).symm

/-- **A message of a block says what its tree says**, as text or compiled. -/
theorem BlockMessage.entry_render (message : BlockMessage) :
    message.entry.render sink values = message.content.render sink values := by
  unfold BlockMessage.entry
  cases htext : message.content.literalText with
  | none => exact CompiledFunction.call_ofNode sink values message.content
  | some text =>
      exact (message.content.renderUnder_of_literalText sink values none htext).symm

end

/-! ### Text -/

/-- A catalog stores text exactly for a tree that is nothing but that text. -/
theorem Entry.ofNode_eq_text_iff (node : Node) (text : String) :
    Entry.ofNode node = .text text ↔ node.literalText = some text := by
  unfold Entry.ofNode
  cases node.literalText <;> simp

/-- A block does the same. -/
theorem BlockMessage.entry_eq_text_iff (message : BlockMessage) (text : String) :
    message.entry = .text text ↔ message.content.literalText = some text := by
  unfold BlockMessage.entry
  cases message.content.literalText <;> simp

end MessageTemplate
