/-
The identifiers of code are in scope.

Around a place stand lazy arms, which may bind the sink, and blocks, which bind a buffer.  An
identifier that none of them binds is free at the place and has to be a parameter of the
function that the code stands in.

What an arm binds, and what the parameters of a function are called, is told from the names
that a tree reads.  What is used is told from its calls: a number field uses the values
without being listed, and it does not use the sink.  That the two agree comes from two
sides.  A tree that reads nothing has no place that uses the sink (`Code.sink_notMem_uses`),
and a tree that reads something uses both the values and the sink at a place outside its arms
(`Code.exists_open_use`).
-/
import MessageTemplate.CommandLine.Function
import MessageTemplate.MessageBlock.Expansion
import MessageTemplate.Proofs.Compiled.Uses
import MessageTemplate.Proofs.Storage

namespace MessageTemplate

/-! ### Free identifiers -/

/-- Nothing around the place binds the identifier. -/
def CodePlace.IsFree (place : CodePlace) (identifier : String) : Prop :=
  ∀ layer ∈ place.around, layer.binder? ≠ some identifier

/-- The identifier is used somewhere where nothing binds it. -/
def Code.IsFree (code : Code) (identifier : String) : Prop :=
  ∃ place ∈ code.places, identifier ∈ place.uses ∧ place.IsFree identifier

/-- **Code in which every identifier refers to what it should.** -/
structure WellScoped (names : CodeNames) (node : Node) (code : Code) : Prop where
  /-- Every identifier is used or bound at one of the places. -/
  mentioned : ∀ identifier ∈ code.identifiers, ∃ place ∈ code.places, place.Mentions identifier
  /-- The values and the sink are free just if the tree reads a value, and nothing else is. -/
  free_iff : ∀ identifier, code.IsFree identifier ↔
    (identifier = names.values ∨ identifier = names.sink) ∧ node.valueNames ≠ []
  /-- A lazy arm ignores its parameter just if the sink is not used in its body. -/
  ignored_iff : ∀ place ∈ code.places, ∀ parameter body, place.action = .lazy parameter body →
    (parameter = none ↔ ∀ inner ∈ body.places, names.sink ∉ inner.uses)
  /-- Where the sink is used in the body and not in an arm of the body, it is the parameter. -/
  own : ∀ place ∈ code.places, ∀ parameter body, place.action = .lazy parameter body →
    ∀ inner ∈ body.places, names.sink ∈ inner.uses → inner.around.any Layer.isArm = false →
      parameter = some names.sink ∧ inner.IsFree names.sink
  /-- The buffer is used only in a block that declares it. -/
  buffer : ∀ place ∈ code.places, names.buffer ∈ place.uses →
    ∃ outer, place.around = .block names.buffer :: outer

/-! ### A tree that reads no value does not use the sink -/

namespace Code

variable {names : CodeNames}

theorem armParameter_eq_none_iff (content : Node) :
    armParameter names content = none ↔ content.occurringNames = [] := by
  rw [← content.valueNames_eq_nil_iff]
  simp [armParameter]

/-- **The code of a tree that reads no value does not use the sink**, also if it has number
fields. -/
theorem sink_notMem_uses (distinct : names.Distinct) {node : Node}
    (h : node.occurringNames = []) (number : Option String) (around : List Layer) :
    ∀ place ∈ (ofNode names node number).walk .all around, names.sink ∉ place.uses := by
  have compiles : Compiles names .all (fun node _ _ => node.occurringNames = [])
      (fun place => names.sink ∉ place.uses) :=
    { part := by
        intro parts number around known part hpart
        rw [Node.occurringNames, Node.partNames_eq_flatMap, List.flatMap_eq_nil_iff] at known
        exact known part hpart
      block := id
      content := by simp [Node.occurringNames]
      text := by simp [CodePlace.uses]
      placeholder := by simp [Node.occurringNames]
      numberField := by simp [CodePlace.uses, Call.identifiers, distinct.values_ne_sink.symm]
      branch := by simp [Node.occurringNames]
      lazy := by simp [CodePlace.uses]
      append := by simp [CodePlace.uses, distinct.sink_ne_buffer]
      giveBack := by simp [CodePlace.uses, distinct.sink_ne_buffer] }
  exact compiles.forall_walk node number around h

/-! ### A tree that reads a value uses the values and the sink -/

/-- A call in flat code that asks for a value. -/
def AsksIn (names : CodeNames) (flat : Flat) : Prop :=
  ∃ name, Call.text names.values names.sink name ∈ flat.holes.map (·.1)

theorem AsksIn.append {first second : Flat} (h : AsksIn names first ∨ AsksIn names second) :
    AsksIn names (first.append second) := by
  rcases h with ⟨name, hname⟩ | ⟨name, hname⟩
  · exact ⟨name, by rw [Flat.calls_append]; exact List.mem_append_left _ hname⟩
  · exact ⟨name, by rw [Flat.calls_append]; exact List.mem_append_right _ hname⟩

theorem flatten_asksIn (number : Option String) (node : Node) :
    node.containsBranch = false → node.occurringNames ≠ [] →
      AsksIn names (flatten names number node) := by
  induction node using Node.treeInduction with
  | sequence parts ih =>
      intro hbranch hnames
      rw [Node.containsBranch] at hbranch
      rw [Node.occurringNames] at hnames
      rw [flatten]
      induction parts with
      | nil => simp [Node.partNames] at hnames
      | cons part rest ihRest =>
          rw [List.forall_mem_cons] at ih
          rw [Node.anyContainsBranch, Bool.or_eq_false_iff] at hbranch
          rw [flattenParts]
          by_cases hpart : part.occurringNames = []
          · have hrest : Node.partNames rest ≠ [] := by simpa [Node.partNames, hpart] using hnames
            exact AsksIn.append (Or.inr (ihRest ih.2 hbranch.2 hrest))
          · exact AsksIn.append (Or.inl (ih.1 hbranch.1 hpart))
  | literal text => simp [Node.occurringNames]
  | numberField => simp [Node.occurringNames]
  | placeholder name => exact fun _ _ => ⟨name, by simp [flatten, Flat.ofCall]⟩
  | branch choice => simp [Node.containsBranch]

/-- Among the places there is one where the values and the sink are used, with nothing but
blocks between it and what stands around. -/
def OpenUse (names : CodeNames) (around : List Layer) (places : List CodePlace) : Prop :=
  ∃ place ∈ places, names.values ∈ place.uses ∧ names.sink ∈ place.uses ∧
    ∀ layer ∈ place.around, layer ∈ around ∨ layer = .block names.buffer

theorem OpenUse.mono {around : List Layer} {places more : List CodePlace}
    (h : OpenUse names around places) (hsub : ∀ place ∈ places, place ∈ more) :
    OpenUse names around more := by
  obtain ⟨place, hplace, huse⟩ := h
  exact ⟨place, hsub place hplace, huse⟩

theorem AsksIn.openUse {flat : Flat} (h : AsksIn names flat) (around : List Layer) :
    OpenUse names around (flat.places around) := by
  obtain ⟨name, hname⟩ := h
  obtain ⟨hole, hhole, hcall⟩ := List.mem_map.mp hname
  refine ⟨⟨.call hole.1, around⟩, ?_, ?_, ?_, fun layer hlayer => Or.inl hlayer⟩
  · exact List.mem_cons_of_mem _ (List.mem_flatMap_of_mem hhole (by simp))
  · simp [CodePlace.uses, hcall, Call.identifiers]
  · simp [CodePlace.uses, hcall, Call.identifiers]

theorem flushRun_openUse {flat : Flat} (h : AsksIn names flat) (around : List Layer) :
    OpenUse names around (statementWalk .all (flushRun names (some flat)) around) := by
  have htext : flat.isText ≠ true := by
    obtain ⟨name, hname⟩ := h
    intro htext
    have hholes : flat.holes = [] := by simpa [Flat.isText] using htext
    simp [hholes] at hname
  rw [flushRun, if_neg htext]
  refine (h.openUse around).mono fun place hplace => ?_
  simp [statementWalk, walk, hplace]

/-- The statements for parts of which one reads a value, or for a run that asks for one. -/
theorem statementsOf_openUse {number : Option String} {around : List Layer} {parts : List Node}
    (ih : ∀ part ∈ parts, part.occurringNames ≠ [] →
      OpenUse names around ((ofNode names part number).walk .all around)) :
    ∀ run : Option Flat,
      ((∃ flat ∈ run, AsksIn names flat) ∨ Node.partNames parts ≠ []) →
        OpenUse names around (statementWalk .all (statementsOf names parts run number) around) := by
  induction parts with
  | nil =>
      intro run h
      rcases h with ⟨flat, rfl, hflat⟩ | hnames
      · exact flushRun_openUse hflat around
      · simp [Node.partNames] at hnames
  | cons part rest ihRest =>
      intro run h
      rw [List.forall_mem_cons] at ih
      rw [statementsOf]
      by_cases hbranch : part.containsBranch = true
      · rw [if_pos hbranch, statementWalk_append, statementWalk]
        rcases h with ⟨flat, rfl, hflat⟩ | hnames
        · exact (flushRun_openUse hflat around).mono fun place => List.mem_append_left _
        by_cases hpart : part.occurringNames = []
        · have hrest : Node.partNames rest ≠ [] := by simpa [Node.partNames, hpart] using hnames
          exact (ihRest ih.2 none (Or.inr hrest)).mono fun place hplace => by simp [hplace]
        · exact (ih.1 hpart).mono fun place hplace => by simp [hplace]
      · rw [if_neg hbranch]
        refine ihRest ih.2 _ ?_
        rcases h with ⟨flat, rfl, hflat⟩ | hnames
        · exact Or.inl ⟨_, rfl, AsksIn.append (Or.inl hflat)⟩
        by_cases hpart : part.occurringNames = []
        · exact Or.inr (by simpa [Node.partNames, hpart] using hnames)
        · have hasks : AsksIn names (flatten names number part) :=
            flatten_asksIn number part (by simpa using hbranch) hpart
          exact Or.inl ⟨_, rfl, AsksIn.append (Or.inr hasks)⟩

/-- **The code of a tree that reads a value uses the values and the sink outside its arms.** -/
theorem exists_open_use (node : Node) (number : Option String) : ∀ around : List Layer,
    node.occurringNames ≠ [] →
      OpenUse names around ((ofNode names node number).walk .all around) := by
  induction node using Node.treeInduction with
  | sequence parts ih =>
      intro around hnames
      by_cases hbranch : Node.anyContainsBranch parts = true
      · have hparts : Node.partNames parts ≠ [] := by simpa [Node.occurringNames] using hnames
        obtain ⟨place, hplace, hvalues, hsink, haround⟩ :=
          statementsOf_openUse (fun part hpart => ih part hpart (.block names.buffer :: around))
            none (Or.inr hparts)
        rw [ofNode, if_pos hbranch, walk]
        refine ⟨place, List.mem_append_left _ hplace, hvalues, hsink, fun layer hlayer => ?_⟩
        rcases haround layer hlayer with hmem | hblock
        · exact (List.mem_cons.mp hmem).symm
        · exact Or.inr hblock
      · have hflat : (Node.sequence parts).containsBranch = false := by
          simpa [Node.containsBranch] using hbranch
        rw [ofNode_of_containsBranch number hflat, walk]
        exact (flatten_asksIn number _ hflat hnames).openUse around
  | literal text => simp [Node.occurringNames]
  | numberField => simp [Node.occurringNames]
  | placeholder name =>
      intro around hnames
      rw [ofNode, walk]
      exact (flatten_asksIn number _ rfl hnames).openUse around
  | branch choice ih =>
      intro around hnames
      rw [ofNode, walk_resolve]
      exact ⟨_, List.mem_cons_self, by simp [CodePlace.uses], by simp [CodePlace.uses],
        fun layer hlayer => Or.inl hlayer⟩

end Code

/-! ### Compiled code is well scoped -/

variable {names : CodeNames}

/-- Blocks bind nothing but the buffer. -/
theorem CodePlace.isFree_of_blocks {place : CodePlace} {identifier : String}
    (h : ∀ layer ∈ place.around, layer = .block names.buffer) (hne : identifier ≠ names.buffer) :
    place.IsFree identifier := by
  intro layer hlayer
  rw [h layer hlayer]
  simpa [Layer.binder?] using hne.symm

namespace Code

theorem IsFree.eq_values_or_sink {node : Node} {identifier : String}
    (h : (node.compile names).IsFree identifier) :
    identifier = names.values ∨ identifier = names.sink := by
  obtain ⟨place, hplace, huse, hfree⟩ := h
  have hproper := isProper_of_mem_places node none place hplace
  cases hproper.uses identifier huse with
  | values layers => exact Or.inl rfl
  | sink layers => exact Or.inr rfl
  | buffer outer haround =>
      have hblock : Layer.block names.buffer ∈ place.around := by simp [haround]
      exact absurd rfl (hfree _ hblock)

theorem IsFree.occurringNames_ne_nil {node : Node} {identifier : String}
    (h : (node.compile names).IsFree identifier) : node.occurringNames ≠ [] := by
  intro hnames
  obtain ⟨place, hplace, huse, -⟩ := h
  -- The code is a text then.
  obtain ⟨hbranch, hholes⟩ := @flatten_of_occurringNames names node hnames
  rw [places, Node.compile, ofNode_of_containsBranch none hbranch, walk, Flat.places,
    hholes] at hplace
  obtain rfl := List.mem_singleton.mp hplace
  simp [CodePlace.uses] at huse

theorem isFree_iff (distinct : names.Distinct) (node : Node) (identifier : String) :
    (node.compile names).IsFree identifier ↔
      (identifier = names.values ∨ identifier = names.sink) ∧ node.valueNames ≠ [] := by
  rw [ne_eq, node.valueNames_eq_nil_iff]
  constructor
  · intro h
    exact ⟨h.eq_values_or_sink, h.occurringNames_ne_nil⟩
  · rintro ⟨hname, hnames⟩
    obtain ⟨place, hplace, hvalues, hsink, haround⟩ := exists_open_use node none [] hnames
    have hblocks : ∀ layer ∈ place.around, layer = .block names.buffer := by
      simpa using haround
    refine ⟨place, hplace, ?_⟩
    rcases hname with rfl | rfl
    · exact ⟨hvalues, CodePlace.isFree_of_blocks hblocks distinct.values_ne_buffer⟩
    · exact ⟨hsink, CodePlace.isFree_of_blocks hblocks distinct.sink_ne_buffer⟩

theorem armParameter_eq_none_iff_uses (distinct : names.Distinct) (content : Node)
    (number : Option String) :
    armParameter names content = none ↔
      ∀ inner ∈ (ofNode names content number).places, names.sink ∉ inner.uses := by
  rw [armParameter_eq_none_iff]
  constructor
  · intro hnames
    exact sink_notMem_uses distinct hnames number []
  · intro hunused
    by_contra hnames
    obtain ⟨place, hplace, -, hsink, -⟩ := exists_open_use content number [] hnames
    exact hunused place hplace hsink

theorem eq_some_sink_of_uses (distinct : names.Distinct) (content : Node)
    (number : Option String) {inner : CodePlace}
    (hinner : inner ∈ (ofNode names content number).places) (huse : names.sink ∈ inner.uses) :
    armParameter names content = some names.sink := by
  cases hparameter : armParameter names content with
  | none =>
      have hunused := (armParameter_eq_none_iff_uses distinct content number).mp hparameter
      exact absurd huse (hunused inner hinner)
  | some parameter => rw [eq_sink_of_mem_armParameter parameter hparameter]

theorem isFree_sink_of_uses (distinct : names.Distinct) (content : Node) (number : Option String)
    {inner : CodePlace} (hinner : inner ∈ (ofNode names content number).places)
    (huse : names.sink ∈ inner.uses) (harms : inner.around.any Layer.isArm = false) :
    inner.IsFree names.sink := by
  have hproper := isProper_of_mem_places content number inner hinner
  have hlayers : ∀ layer ∈ inner.around, layer.IsFor names := by
    generalize hsink : names.sink = identifier at huse
    cases hproper.uses identifier huse with
    | values layers => exact layers
    | sink layers => exact layers
    | buffer outer haround => exact absurd hsink distinct.sink_ne_buffer
  refine CodePlace.isFree_of_blocks (fun layer hlayer => ?_) distinct.sink_ne_buffer
  rw [List.any_eq_false] at harms
  cases layer with
  | arm kind name parameter => exact absurd rfl (harms _ hlayer)
  | block buffer => rw [show buffer = names.buffer from hlayers _ hlayer]

end Code

theorem wellScoped_compile (distinct : names.Distinct) (node : Node) :
    WellScoped names node (node.compile names) := by
  have hlazy : ∀ place ∈ (node.compile names).places, ∀ parameter body,
      place.action = .lazy parameter body → ∃ content number,
        parameter = Code.armParameter names content ∧ body = Code.ofNode names content number :=
    fun place hplace => (Code.isProper_of_mem_places node none place hplace).lazy
  constructor
  case mentioned => exact (node.compile names).mem_identifiers []
  case free_iff => exact Code.isFree_iff distinct node
  case ignored_iff =>
    intro place hplace parameter body haction
    obtain ⟨content, number, rfl, rfl⟩ := hlazy place hplace parameter body haction
    exact Code.armParameter_eq_none_iff_uses distinct content number
  case own =>
    intro place hplace parameter body haction inner hinner huse harms
    obtain ⟨content, number, rfl, rfl⟩ := hlazy place hplace parameter body haction
    exact ⟨Code.eq_some_sink_of_uses distinct content number hinner huse,
      Code.isFree_sink_of_uses distinct content number hinner huse harms⟩
  case buffer =>
    intro place hplace huse
    have hproper := Code.isProper_of_mem_places node none place hplace
    generalize hbuffer : names.buffer = identifier at huse
    cases hproper.uses identifier huse with
    | values layers => exact absurd hbuffer.symm distinct.values_ne_buffer
    | sink layers => exact absurd hbuffer.symm distinct.sink_ne_buffer
    | buffer outer haround => exact ⟨outer, haround⟩

/-! ### Functions -/

namespace CompiledFunction

/-- **A function that is closed**: only its parameters are free in its body, and the body runs
under them. -/
structure IsClosed (function : CompiledFunction) : Prop where
  free : ∀ identifier, function.body.IsFree identifier →
    identifier = function.values ∨ identifier = function.sink
  runs : ∀ {σ : Type} (sink : Sink σ) (values : Values), ∃ run,
    function.body.run? sink values (Scope.ofParameters function.values function.sink) = some run

/-- The parameters of a function in a block of messages. -/
def parameterLexemes (function : CompiledFunction) : List Source.Lexeme :=
  [.word function.values, .punct ':', .punct '&'] ++ MessageBlock.libraryItem ["Values"] ++
    [.punct ',', .word function.sink, .punct ':', .punct '&', .word "mut", .word "dyn"] ++
    MessageBlock.libraryItem ["DiagnosticSink"] ++ [.punct ',']

/-- **What is printed for a tree is a function.** -/
structure IsPrinted (function : CompiledFunction) (node : Node) : Prop where
  /-- On the command line. -/
  lines : ∀ template name runtimePath,
    CommandLine.functionLines template name runtimePath node
      = CommandLine.documentationLine template :: CommandLine.headLine name function ::
        function.body.source { SourceStyle.standard with path := runtimePath } 1 ++ ["\x7d"]
  /-- In the code of a block of messages. -/
  lexemes : ∀ locale key, ∃ text,
    MessageBlock.messageLexemes locale { key, content := node }
      = MessageBlock.functionLexemes text key function.parameterLexemes
        (Source.path ["std", "string", "String"])
        (function.body.lexemes (MessageBlock.libraryItem ["runtime"]))

theorem isClosed_ofNode (node : Node) : (ofNode node).IsClosed := by
  constructor
  case free =>
    intro identifier h
    obtain ⟨hname, hnames⟩ := (Code.isFree_iff CodeNames.standard_distinct node identifier).mp h
    simpa [ofNode, hnames, CodeNames.standard] using hname
  case runs => exact fun sink values => ⟨_, body_run sink values node⟩

end CompiledFunction

/--
**The identifiers of compiled code are in scope.**

What is printed for a tree is a closed function, whose parameters are underscored just if the
tree reads no value.
-/
theorem compile_wellScoped (node : Node) :
    (∀ names : CodeNames, names.Distinct → WellScoped names node (node.compile names)) ∧
      let function := CompiledFunction.ofNode node
      (function.values, function.sink)
          = (if node.valueNames = [] then ("_values", "_sink") else ("values", "sink")) ∧
        function.IsPrinted node ∧ function.IsClosed := by
  refine ⟨fun names distinct => wellScoped_compile distinct node, ?_, ?_, ?_⟩
  · by_cases hnames : node.valueNames = [] <;> simp [CompiledFunction.ofNode, hnames]
  · exact ⟨fun template name runtimePath => rfl, fun locale key => ⟨_, rfl⟩⟩
  · exact CompiledFunction.isClosed_ofNode node

/-- Arms that ignore their parameter and arms that do not, one inside the other: the number
field of the outermost branch uses the values but not the sink. -/
theorem compile_wellScoped_nested :
    let names : CodeNames := { values := "v", sink := "s", buffer := "b" }
    let inner : Node := .branch
      { name := "c", kind := .select, options :=
          [("x", .sequence [.numberField]), ("other", .sequence [.literal " ", .placeholder "d"])] }
    let outer : Node := .sequence
      [.numberField, .branch
        { name := "a", kind := .plural, options :=
            [("one", .sequence [.numberField]), ("other", .sequence [.literal "-", inner])] }]
    names.Distinct ∧ WellScoped names outer (outer.compile names) := by
  intro names inner outer
  have distinct : names.Distinct := ⟨by decide, by decide, by decide⟩
  exact ⟨distinct, (compile_wellScoped outer).1 names distinct⟩

end MessageTemplate
