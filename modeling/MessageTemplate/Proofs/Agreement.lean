/-
Rendering reads only the values that are listed.

Two maps of values may differ wherever they like; if they agree on the names that a tree
lists, they cannot be told apart by rendering it or by running its code.  For rendering this
follows the tree.  For code it is said in two steps that do not know of each other: running
code looks up only the names at its places (`Code.run?_congr`), and compiled code has only
names of its tree at its places (`Code.mem_names_of_mem_places`), also where it asks again for
the number of a plural branch further out.

A tree that lists nothing is a text, always the same.
-/
import MessageTemplate.Proofs.Storage
import MessageTemplate.Proofs.Visits

namespace MessageTemplate

/-- Values that are the same, or both missing, under each of some names. -/
def AgreeOn (names : List String) (values others : Values) : Prop :=
  ∀ name ∈ names, values[name]? = others[name]?

theorem AgreeOn.mono {names more : List String} {values others : Values}
    (h : AgreeOn more values others) (hsub : ∀ name ∈ names, name ∈ more) :
    AgreeOn names values others :=
  fun name hname => h name (hsub name hname)

variable {values others : Values}

section

variable {σ : Type} (sink : Sink σ)

/-! ### Rendering -/

theorem renderBranch_congr (choice : Branch (Rendering σ))
    (h : values[choice.name]? = others[choice.name]?) (number : Option Binary64) :
    renderBranch sink values choice number = renderBranch sink others choice number := by
  simp only [renderBranch, renderSelect, renderPlural, h]

namespace Node

theorem renderParts_congr {parts : List Node}
    (h : ∀ part ∈ parts, part.renderUnder sink values = part.renderUnder sink others)
    (number : Option Binary64) :
    renderParts sink values parts number = renderParts sink others parts number := by
  induction parts with
  | nil => simp only [renderParts]
  | cons part rest ih =>
      rw [List.forall_mem_cons] at h
      rw [renderParts, renderParts, h.1, ih h.2]

/-- **Rendering reads only the names that occur.** -/
theorem renderUnder_congr (node : Node) : AgreeOn node.occurringNames values others →
    node.renderUnder sink values = node.renderUnder sink others := by
  induction node using treeInduction with
  | sequence parts ih =>
      intro agree
      funext number
      rw [renderUnder, renderUnder]
      refine renderParts_congr sink (fun part hpart => ih part hpart (agree.mono ?_)) number
      intro name hname
      rw [occurringNames, partNames_eq_flatMap]
      exact List.mem_flatMap_of_mem hpart hname
  | literal text =>
      intro _
      funext number
      rw [renderUnder, renderUnder]
  | numberField =>
      intro _
      funext number
      rw [renderUnder, renderUnder]
  | placeholder name =>
      intro agree
      have hname : values[name]? = others[name]? := agree name (by simp [occurringNames])
      funext number
      simp only [renderUnder, renderPlaceholder, hname]
  | branch choice ih =>
      intro agree
      have hname : values[choice.name]? = others[choice.name]? :=
        agree choice.name (by simp [occurringNames])
      have hcontents : optionRenderings sink values choice.options
          = optionRenderings sink others choice.options := by
        rw [optionRenderings_eq_map, optionRenderings_eq_map]
        refine List.map_congr_left fun option hoption => ?_
        rw [ih option hoption (agree.mono ?_)]
        intro name hname
        rw [occurringNames, optionNames_eq_flatMap]
        exact List.mem_cons_of_mem _ (List.mem_flatMap_of_mem hoption hname)
      funext number
      rw [renderUnder, renderUnder, hcontents]
      exact renderBranch_congr sink _ hname number

end Node

/-! ### Running code -/

/-- The name of the value that a call asks for. -/
def Call.valueName : Call → String
  | text _ _ name => name
  | number _ name => name

/-- The name of the value that code asks for at a place. -/
def CodePlace.valueName? (place : CodePlace) : Option String :=
  match place.action with
  | .call call => some call.valueName
  | .resolve choice _ _ => some choice.name
  | _ => none

/-- Values that are the same, or both missing, under every name at some places. -/
def AgreeAt (places : List CodePlace) (values others : Values) : Prop :=
  ∀ place ∈ places, ∀ name ∈ place.valueName?, values[name]? = others[name]?

theorem AgreeAt.mono {places more : List CodePlace} (h : AgreeAt more values others)
    (hsub : ∀ place ∈ places, place ∈ more) : AgreeAt places values others :=
  fun place hplace => h place (hsub place hplace)

theorem Call.run?_congr (call : Call) (h : values[call.valueName]? = others[call.valueName]?)
    (scope : Scope) : call.run? sink values scope = call.run? sink others scope := by
  cases call with
  | text v s name =>
      have hname : values[name]? = others[name]? := h
      simp only [run?, Resolve.text, hname]
  | number v name =>
      have hname : values[name]? = others[name]? := h
      simp only [run?, Resolve.number, hname]

theorem Flat.run?_congr (flat : Flat) (around : List Layer)
    (agree : AgreeAt (flat.places around) values others) (scope : Scope) :
    flat.run? sink values scope = flat.run? sink others scope := by
  obtain ⟨first, holes⟩ := flat
  have hholes : runHoles? sink values scope holes = runHoles? sink others scope holes := by
    have hcalls : ∀ hole ∈ holes, values[hole.1.valueName]? = others[hole.1.valueName]? := by
      intro hole hhole
      refine agree ⟨.call hole.1, around⟩ ?_ _ rfl
      exact List.mem_cons_of_mem _ (List.mem_flatMap_of_mem hhole (by simp))
    clear agree
    induction holes with
    | nil => rfl
    | cons hole rest ih =>
        obtain ⟨call, after⟩ := hole
        rw [List.forall_mem_cons] at hcalls
        rw [runHoles?, runHoles?, call.run?_congr sink hcalls.1, ih hcalls.2]
  rw [run?, run?, hholes]

theorem Resolve.branch_congr (kind : BranchKind) {name : String}
    (h : values[name]? = others[name]?) (arms : List (String × Arm σ)) :
    Resolve.branch sink values kind name arms = Resolve.branch sink others kind name arms := by
  simp only [Resolve.branch, Resolve.plural, Resolve.select, h]

namespace Code

/-- What runs alike with both maps of values, wherever it stands. -/
def RunsAlike (values others : Values) (code : Code) : Prop :=
  ∀ scope, code.run? sink values scope = code.run? sink others scope

theorem runArms?_congr {arms : List (String × ArmCode Code)}
    (h : ∀ key parameter body, (key, .lazy parameter body) ∈ arms →
      RunsAlike sink values others body) (scope : Scope) :
    runArms? sink values arms scope = runArms? sink others arms scope := by
  induction arms with
  | nil => rfl
  | cons arm rest ih =>
      have hrest := ih fun key parameter body hmem =>
        h key parameter body (List.mem_cons_of_mem _ hmem)
      obtain ⟨key, text | ⟨parameter, body⟩⟩ := arm
      · rw [runArms?, runArms?, hrest]
      · have hbody := h key parameter body List.mem_cons_self
        simp only [runArms?, hrest, hbody _]

theorem runStatements?_congr {statements : List (Statement Code)}
    (h : ∀ target code, .pushCode target code ∈ statements → RunsAlike sink values others code)
    (buffer : String) (scope : Scope) :
    runStatements? sink values statements buffer scope
      = runStatements? sink others statements buffer scope := by
  induction statements with
  | nil => rfl
  | cons statement rest ih =>
      have hrest := ih fun target code hmem => h target code (List.mem_cons_of_mem _ hmem)
      cases statement with
      | pushText target text => simp only [runStatements?, hrest]
      | pushCode target code =>
          have hcode := h target code List.mem_cons_self
          simp only [runStatements?, hrest, hcode scope]

/-- **Running code looks up only the names at its places.** -/
theorem run?_congr (code : Code) : ∀ around : List Layer,
    AgreeAt (code.walk .all around) values others → RunsAlike sink values others code := by
  induction code using codeInduction with
  | flat pieces => exact fun around agree scope => pieces.run?_congr sink around agree scope
  | resolve kind v s name arms ih =>
      intro around agree scope
      rw [walk_resolve] at agree
      have hname : values[name]? = others[name]? := agree _ List.mem_cons_self name rfl
      have harms := runArms?_congr sink (fun key parameter body hmem =>
        ih key parameter body hmem (.arm kind name parameter :: around)
          (agree.mono fun place hplace => by
            refine List.mem_cons_of_mem _ (List.mem_flatMap_of_mem (List.mem_map_of_mem hmem) ?_)
            exact List.mem_cons_of_mem _ hplace)) scope
      simp only [run?, harms, Resolve.branch_congr sink kind hname]
  | block buffer statements result ih =>
      intro around agree scope
      have hstatements := runStatements?_congr sink (fun target code hmem =>
        ih target code hmem (.block buffer :: around) (agree.mono fun place hplace => by
          rw [walk]
          exact List.mem_append_left _ (mem_statementWalk hmem place hplace)))
        buffer ((buffer, .buffer) :: scope)
      rw [run?, run?, hstatements]

end Code

end

/-- Compiled code has only names of its tree at its places. -/
theorem Code.mem_names_of_mem_places (node : Node) (names : CodeNames) :
    ∀ place ∈ (node.compile names).places, ∀ name ∈ place.valueName?,
      name ∈ node.occurringNames := by
  have compiles : Compiles names .all
      (fun content number _ => content.IsWithin node ∧ ∀ name ∈ number, name ∈ node.occurringNames)
      (fun place => ∀ name ∈ place.valueName?, name ∈ node.occurringNames) :=
    { part := fun known part hpart => ⟨known.1.part hpart, known.2⟩
      block := id
      content := by
        intro choice number around known content hcontent
        obtain ⟨option, hoption, rfl⟩ := Picking.all.exists_option hcontent
        refine ⟨known.1.content hoption, fun name hname => ?_⟩
        cases hkind : choice.kind with
        | plural =>
            obtain rfl : choice.name = name := by simpa [optionNumber, hkind] using hname
            exact known.1.names _ (by simp [Node.occurringNames])
        | select => exact known.2 name (by simpa [optionNumber, hkind] using hname)
      text := by simp [CodePlace.valueName?]
      placeholder := by
        intro name number around known
        simpa [CodePlace.valueName?, Call.valueName, Node.occurringNames] using known.1.names
      numberField := by
        intro name around known
        simpa [CodePlace.valueName?, Call.valueName] using known.2
      branch := by
        intro choice arms number around known
        have hname := known.1.names choice.name (by simp [Node.occurringNames])
        simpa [CodePlace.valueName?] using hname
      lazy := by simp [CodePlace.valueName?]
      append := by simp [CodePlace.valueName?]
      giveBack := by simp [CodePlace.valueName?] }
  exact compiles.forall_walk node none [] ⟨.refl node, by simp⟩

/-! ### Trees that list nothing -/

/-- A tree that reads no value renders to one text, and its code runs to it in every scope. -/
theorem Node.exists_text_of_occurringNames {node : Node} (h : node.occurringNames = []) :
    ∃ text, (∀ {σ : Type} (sink : Sink σ) (values : Values), node.render sink values = pure text) ∧
      ∀ {σ : Type} (sink : Sink σ) (values : Values) (names : CodeNames) (scope : Scope),
        names.Distinct → (node.compile names).run? sink values scope = some (pure text) := by
  let flat := Code.flatten .standard none node
  have hrender : ∀ {σ : Type} (sink : Sink σ) (values : Values),
      node.render sink values = pure flat.first := by
    intro σ sink values
    obtain ⟨hbranch, hholes⟩ := @Code.flatten_of_occurringNames .standard node h
    have htext : flat.isText = true := by simp [flat, Flat.isText, hholes]
    have hrun : flat.run? sink values (Scope.ofParameters "values" "sink")
        = some (node.render sink values) :=
      Code.flatten_run (Scope.Serves.ofParameters CodeNames.standard_distinct) none node hbranch
    rw [Flat.run?_of_isText htext] at hrun
    exact (Option.some.inj hrun).symm
  refine ⟨flat.first, hrender, ?_⟩
  intro σ sink values names scope distinct
  have hrun : (node.compile names).run? sink values
      (Scope.ofParameters names.values names.sink) = some (node.render sink values) :=
    Code.ofNode_run distinct node none _ (Scope.Serves.ofParameters distinct)
  rw [hrender sink values] at hrun
  exact (Code.run?_of_occurringNames sink values names h scope _).trans hrun

/-! ### Two maps of values -/

/-- **A tree that cannot tell two maps of values apart.** -/
structure Node.Alike (node : Node) (values others : Values) : Prop where
  /-- It renders to the same text with the same reports. -/
  rendered : ∀ {σ : Type} (sink : Sink σ), node.render sink values = node.render sink others
  /-- Its code runs alike, under all names and in all scopes. -/
  compiled : ∀ {σ : Type} (sink : Sink σ) (names : CodeNames) (scope : Scope),
    (node.compile names).run? sink values scope = (node.compile names).run? sink others scope
  /-- Where the code should run it does. -/
  runs : ∀ {σ : Type} (sink : Sink σ) (names : CodeNames), names.Distinct →
    ∃ run, (node.compile names).run? sink values (Scope.ofParameters names.values names.sink)
      = some run

/--
**Only the values that are listed are read.**

A tree that lists no name is one text for all values, and reports nothing.
-/
theorem alike_of_agreeOn (node : Node) :
    (∀ values others, AgreeOn node.valueNames values others → node.Alike values others) ∧
      (node.valueNames = [] → ∃ text,
        (∀ {σ : Type} (sink : Sink σ) (values : Values), node.render sink values = pure text) ∧
          ∀ {σ : Type} (sink : Sink σ) (values : Values) (names : CodeNames) (scope : Scope),
            names.Distinct → (node.compile names).run? sink values scope = some (pure text)) := by
  constructor
  · intro values others agree
    have hnames : AgreeOn node.occurringNames values others :=
      agree.mono fun name hname => Node.mem_valueNames_iff.mpr hname
    constructor
    · intro σ sink
      exact congrFun (node.renderUnder_congr sink hnames) none
    · intro σ sink names scope
      refine (node.compile names).run?_congr sink [] (fun place hplace name hname => ?_) scope
      exact hnames name (Code.mem_names_of_mem_places node names place hplace name hname)
    · intro σ sink names distinct
      exact ⟨_, Code.ofNode_run distinct node none _ (Scope.Serves.ofParameters distinct)⟩
  · intro h
    exact Node.exists_text_of_occurringNames (node.valueNames_eq_nil_iff.mp h)

/-- A number field that asks again for the number of a branch further out, with a value that is
missing from both maps and one that is missing from one of them. -/
theorem alike_of_agreeOn_nested :
    let values : Values := (∅ : Values).insert "a" (.string " 1 ")
    let others : Values := values.insert "c" (.bool true)
    let inner : Node := .branch
      { name := "b", kind := .select, options := [("other", .sequence [.numberField])] }
    let outer : Node := .branch
      { name := "a", kind := .plural, options := [("=1", .sequence [inner, .placeholder "a"])] }
    AgreeOn outer.valueNames values others ∧ values["c"]? ≠ others["c"]? ∧
      outer.Alike values others := by
  intro values others inner outer
  have agree : AgreeOn outer.valueNames values others := by
    intro name hname
    have hmem : name = "a" ∨ name = "b" ∨ name = "a" := by
      simpa [outer, inner, Node.mem_valueNames_iff, Node.occurringNames, Node.optionNames,
        Node.partNames] using hname
    have hother : name ≠ "c" := by rcases hmem with rfl | rfl | rfl <;> decide
    simp only [others, Std.TreeMap.getElem?_insert]
    rw [if_neg (by simpa using hother.symm)]
  refine ⟨agree, ?_, (alike_of_agreeOn outer).1 values others agree⟩
  simp [values, others]

end MessageTemplate
