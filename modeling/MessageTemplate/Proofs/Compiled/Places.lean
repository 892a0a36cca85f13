/-
The places of code.

A walk through code comes to places, one after another: a text that is put out, a call, a
resolver call, a lazy arm, an append to a buffer, a buffer that is given back.  With each
place comes what stands around it, the lazy arms and blocks from the inside out.

Which arms of a resolver call a walk enters is left open (`Picking`).  Entering all arms gives
every place of the code, and entering the arm that is chosen for given values gives the places
that running code comes to.  What is shown of places for every picking holds for both.

In compiled code each place comes from a node of the tree.  So what is to be shown of its
places is shown once for each kind of node, if it is known what the node is passed on from the
tree (`Compiles`, `Code.forall_walk`).
-/
import MessageTemplate.Compiled.Code
import MessageTemplate.Proofs.Choice
import MessageTemplate.Proofs.Compiled.Identifiers
import MessageTemplate.Proofs.Induction

namespace MessageTemplate

/-- What stands around a place. -/
inductive Layer where
  /-- A lazy arm of a resolver call, with its parameter. -/
  | arm (kind : BranchKind) (name : String) (parameter : Option String)
  /-- A block, with the buffer that it declares. -/
  | block (buffer : String)
deriving DecidableEq

/-- Whether a layer is a lazy arm. -/
def Layer.isArm : Layer → Bool
  | arm _ _ _ => true
  | block _ => false

/-- What code does at a place. -/
inductive CodeAction where
  /-- A fixed text is put out. -/
  | text (text : String)
  | call (call : Call)
  /-- A resolver is called, with arms as the contents of a branch. -/
  | resolve (choice : Branch (ArmCode Code)) (values sink : String)
  /-- A lazy arm is set up. -/
  | lazy (parameter : Option String) (body : Code)
  /-- Something is appended to a buffer. -/
  | append (buffer : String)
  /-- A buffer is given back. -/
  | giveBack (buffer : String)

/-- A place of code. -/
structure CodePlace where
  action : CodeAction
  /-- What stands around the place, the innermost first. -/
  around : List Layer

/-- **Which contents of a branch are entered**, told from the value and the keys. -/
structure Picking where
  pick : {α : Type} → Branch α → List α
  natural : ∀ {α β : Type} (f : α → β) (choice : Branch α),
    pick (choice.mapContents f) = (pick choice).map f
  exists_option : ∀ {α : Type} {choice : Branch α} {content : α}, content ∈ pick choice →
    ∃ option ∈ choice.options, option.2 = content

namespace Picking

/-- All contents. -/
def all : Picking where
  pick choice := choice.options.map (·.2)
  natural f choice := by simp [Branch.mapContents]
  exists_option h := List.mem_map.mp h

/-- The content that a branch puts out. -/
def chosen (values : Values) : Picking where
  pick choice := (choice.content? values).toList
  natural f choice := by cases h : choice.content? values <;> simp [h]
  exists_option h := Branch.mem_of_content? (Option.mem_toList.mp h)

@[simp] theorem chosen_pick (values : Values) {α : Type} (choice : Branch α) :
    (chosen values).pick choice = (choice.content? values).toList := rfl

theorem mem_chosen {values : Values} {α : Type} {choice : Branch α} {content : α} :
    content ∈ (chosen values).pick choice ↔ choice.content? values = some content :=
  Option.mem_toList

end Picking

/-- The places of flat code. -/
def Flat.places (flat : Flat) (around : List Layer) : List CodePlace :=
  { action := .text flat.first, around } :: flat.holes.flatMap fun hole =>
    [{ action := .call hole.1, around }, { action := .text hole.2, around }]

namespace Code

variable (picking : Picking)

mutual

/-- The places of code that a walk comes to. -/
def walk : Code → List Layer → List CodePlace
  | .flat pieces, around => pieces.places around
  | .resolve kind values sink name arms, around =>
    { action := .resolve { name, kind, options := arms } values sink, around } ::
      (picking.pick { name, kind, options := armWalks kind name arms around }).flatten
  | .block buffer statements result, around =>
    statementWalk statements (.block buffer :: around) ++
      [{ action := .giveBack result, around := .block buffer :: around }]

/-- The places of each arm of a resolver call. -/
def armWalks (kind : BranchKind) (name : String) :
    List (String × ArmCode Code) → List Layer → List (String × List CodePlace)
  | [], _ => []
  | (key, .text text) :: rest, around =>
    (key, [{ action := .text text, around }]) :: armWalks kind name rest around
  | (key, .lazy parameter body) :: rest, around =>
    (key, { action := .lazy parameter body, around } ::
        walk body (.arm kind name parameter :: around)) ::
      armWalks kind name rest around

/-- The places of statements. -/
def statementWalk : List (Statement Code) → List Layer → List CodePlace
  | [], _ => []
  | .pushText buffer text :: rest, around =>
    { action := .append buffer, around } :: { action := .text text, around } ::
      statementWalk rest around
  | .pushCode buffer code :: rest, around =>
    { action := .append buffer, around } :: walk code around ++ statementWalk rest around

end

/-- All places of code. -/
def places (code : Code) : List CodePlace :=
  code.walk .all []

/-- The places that code comes to when it runs with given values. -/
def steps (code : Code) (values : Values) : List CodePlace :=
  code.walk (.chosen values) []

/-! ### Walks -/

variable {picking}

/-- The places of an arm of a resolver call. -/
def armWalk (picking : Picking) (kind : BranchKind) (name : String) (around : List Layer) :
    ArmCode Code → List CodePlace
  | .text text => [{ action := .text text, around }]
  | .lazy parameter body =>
    { action := .lazy parameter body, around } ::
      body.walk picking (.arm kind name parameter :: around)

theorem armWalks_eq_map (kind : BranchKind) (name : String) (arms : List (String × ArmCode Code))
    (around : List Layer) :
    armWalks picking kind name arms around
      = arms.map fun arm => (arm.1, armWalk picking kind name around arm.2) := by
  induction arms with
  | nil => rfl
  | cons arm rest ih =>
      obtain ⟨key, text | ⟨parameter, body⟩⟩ := arm <;> rw [armWalks, ih] <;> rfl

theorem walk_resolve (kind : BranchKind) (values sink name : String)
    (arms : List (String × ArmCode Code)) (around : List Layer) :
    let choice : Branch (ArmCode Code) := { name, kind, options := arms }
    (resolve kind values sink name arms).walk picking around
      = { action := .resolve choice values sink, around } ::
        (picking.pick choice).flatMap (armWalk picking kind name around) := by
  intro choice
  rw [walk, armWalks_eq_map, List.flatMap_def, ← picking.natural]
  rfl

/-- A walk through arms that are made from the contents of a branch. -/
theorem walk_resolve_mapContents {α : Type} (f : α → ArmCode Code) (choice : Branch α)
    (values sink : String) (around : List Layer) :
    (resolve choice.kind values sink choice.name (choice.mapContents f).options).walk picking around
      = { action := .resolve (choice.mapContents f) values sink, around } ::
        (picking.pick choice).flatMap fun content =>
          armWalk picking choice.kind choice.name around (f content) := by
  rw [walk_resolve]
  change _ :: (picking.pick (choice.mapContents f)).flatMap _ = _
  rw [picking.natural, List.flatMap_map]
  rfl

theorem statementWalk_append (first second : List (Statement Code)) (around : List Layer) :
    statementWalk picking (first ++ second) around
      = statementWalk picking first around ++ statementWalk picking second around := by
  induction first with
  | nil => rfl
  | cons statement first ih => cases statement <;> simp [statementWalk, ih]

/-- The places of code in a statement are places of the statements. -/
theorem mem_statementWalk {statements : List (Statement Code)} {target : String} {code : Code}
    (h : .pushCode target code ∈ statements) {around : List Layer} :
    ∀ place ∈ code.walk picking around, place ∈ statementWalk picking statements around := by
  intro place hplace
  obtain ⟨before, after, rfl⟩ := List.append_of_mem h
  rw [statementWalk_append, statementWalk]
  simp [hplace]

/-! ### Arms of compiled code -/

/-- A tree without branches has flat code. -/
theorem ofNode_of_containsBranch {names : CodeNames} {node : Node} (number : Option String)
    (h : node.containsBranch = false) :
    ofNode names node number = .flat (flatten names number node) := by
  cases node with
  | sequence parts =>
      have hparts : Node.anyContainsBranch parts = false := by
        simpa [Node.containsBranch] using h
      simp [ofNode, flatten, hparts]
  | literal text => rw [ofNode]
  | numberField => rw [ofNode]
  | placeholder name => rw [ofNode]
  | branch choice => simp [Node.containsBranch] at h

variable (names : CodeNames)

/-- The arm for the content of an option. -/
def armOf (number : Option String) (content : Node) : ArmCode Code :=
  if content.containsBranch then .lazy (armParameter names content) (ofNode names content number)
  else flatArm names content (flatten names number content)

theorem armsOf_eq_map (options : List (String × Node)) (number : Option String) :
    armsOf names options number
      = options.map fun option => (option.1, armOf names number option.2) := by
  induction options with
  | nil => rfl
  | cons option rest ih =>
      obtain ⟨key, content⟩ := option
      rw [armsOf, ih]
      rfl

/-- The code of a branch has an arm for each content. -/
theorem ofNode_branch (choice : Branch Node) (number : Option String) :
    ofNode names (.branch choice) number
      = .resolve choice.kind names.values names.sink choice.name
        (choice.mapContents
          (armOf names (optionNumber choice.kind choice.name number))).options := by
  rw [ofNode, armsOf_eq_map]
  rfl

/-- An arm is a text, or it is lazy and has the code of its content. -/
theorem armOf_cases (number : Option String) (content : Node) :
    (∃ text, armOf names number content = .text text) ∨
      armOf names number content
        = .lazy (armParameter names content) (ofNode names content number) := by
  unfold armOf
  by_cases hbranch : content.containsBranch = true
  · rw [if_pos hbranch]
    exact Or.inr rfl
  · rw [if_neg hbranch, flatArm, ofNode_of_containsBranch number (by simpa using hbranch)]
    by_cases htext : (flatten names number content).isText = true
    · rw [if_pos htext]
      exact Or.inl ⟨_, rfl⟩
    · rw [if_neg htext]
      exact Or.inr rfl

end Code

/-! ### Places of compiled code -/

/-- **What is known of nodes is passed on in the tree and gives what is to be shown of
places.**  `Known` is about a node, the name of the nearest plural branch around it and what
stands around its code. -/
structure Compiles (names : CodeNames) (picking : Picking)
    (Known : Node → Option String → List Layer → Prop) (Shown : CodePlace → Prop) : Prop where
  part : ∀ {parts number around}, Known (.sequence parts) number around →
    ∀ part ∈ parts, Known part number around
  block : ∀ {parts number around}, Known (.sequence parts) number around →
    Known (.sequence parts) number (.block names.buffer :: around)
  content : ∀ {choice number around}, Known (.branch choice) number around →
    ∀ content ∈ picking.pick choice,
      Known content (Code.optionNumber choice.kind choice.name number)
        (.arm choice.kind choice.name (Code.armParameter names content) :: around)
  text : ∀ {text around}, Shown ⟨.text text, around⟩
  placeholder : ∀ {name number around}, Known (.placeholder name) number around →
    Shown ⟨.call (.text names.values names.sink name), around⟩
  numberField : ∀ {name around}, Known .numberField (some name) around →
    Shown ⟨.call (.number names.values name), around⟩
  branch : ∀ {choice : Branch Node} {arms number around}, Known (.branch choice) number around →
    Shown ⟨.resolve { name := choice.name, kind := choice.kind, options := arms } names.values
      names.sink, around⟩
  lazy : ∀ {choice number around}, Known (.branch choice) number around →
    ∀ content ∈ picking.pick choice,
      Shown ⟨.lazy (Code.armParameter names content)
        (Code.ofNode names content (Code.optionNumber choice.kind choice.name number)), around⟩
  append : ∀ {around}, Shown ⟨.append names.buffer, .block names.buffer :: around⟩
  giveBack : ∀ {around}, Shown ⟨.giveBack names.buffer, .block names.buffer :: around⟩

namespace Compiles

variable {names : CodeNames} {picking : Picking}
  {Known : Node → Option String → List Layer → Prop} {Shown : CodePlace → Prop}
  (compiles : Compiles names picking Known Shown)

include compiles

/-- The places of flat code are its calls and texts. -/
theorem flat_places {flat : Flat} {around : List Layer}
    (h : ∀ call ∈ flat.holes.map (·.1), Shown ⟨.call call, around⟩) :
    ∀ place ∈ flat.places around, Shown place := by
  rw [Flat.places, List.forall_mem_cons]
  refine ⟨compiles.text, fun place hplace => ?_⟩
  obtain ⟨hole, hhole, hplace⟩ := List.mem_flatMap.mp hplace
  rcases List.mem_cons.mp hplace with rfl | hlast
  · exact h _ (List.mem_map_of_mem hhole)
  · obtain rfl := List.mem_singleton.mp hlast
    exact compiles.text

/-- The calls of a tree without branches. -/
theorem flatten_calls (number : Option String) (around : List Layer) (node : Node) :
    Known node number around →
      ∀ call ∈ (Code.flatten names number node).holes.map (·.1),
        Shown ⟨.call call, around⟩ := by
  induction node using Node.treeInduction with
  | sequence parts ih =>
      intro known
      have hparts := compiles.part known
      rw [Code.flatten]
      clear known
      induction parts with
      | nil => simp [Code.flattenParts, Flat.empty]
      | cons part rest ihRest =>
          rw [List.forall_mem_cons] at ih hparts
          rw [Code.flattenParts, Flat.calls_append, List.forall_mem_append]
          exact ⟨ih.1 hparts.1, ihRest ih.2 hparts.2⟩
  | literal text => simp [Code.flatten, Flat.ofText]
  | numberField =>
      intro known
      cases number with
      | none => simp [Code.flatten, Flat.ofText]
      | some name => simpa [Code.flatten, Flat.ofCall] using compiles.numberField known
  | placeholder name =>
      intro known
      simpa [Code.flatten, Flat.ofCall] using compiles.placeholder known
  | branch choice => simp [Code.flatten, Flat.empty]

/-- The statement for a run of flat parts. -/
theorem flushRun_places {run : Option Flat} {around : List Layer}
    (h : ∀ flat ∈ run, ∀ call ∈ flat.holes.map (·.1),
      Shown ⟨.call call, .block names.buffer :: around⟩) :
    ∀ place ∈ Code.statementWalk picking (Code.flushRun names run) (.block names.buffer :: around),
      Shown place := by
  cases run with
  | none => simp [Code.flushRun, Code.statementWalk]
  | some flat =>
      have hflat := compiles.flat_places (h flat rfl)
      rw [Code.flushRun]
      by_cases htext : flat.isText = true
      · rw [if_pos htext]
        simpa [Code.statementWalk] using ⟨compiles.append, compiles.text⟩
      · rw [if_neg htext]
        simpa [Code.statementWalk, Code.walk] using ⟨compiles.append, hflat⟩

/-- The statements for parts whose code is known. -/
theorem statementsOf_places {number : Option String} {around : List Layer} {parts : List Node}
    (known : ∀ part ∈ parts, Known part number (.block names.buffer :: around))
    (h : ∀ part ∈ parts,
      ∀ place ∈ (Code.ofNode names part number).walk picking (.block names.buffer :: around),
        Shown place) :
    ∀ run : Option Flat,
      (∀ flat ∈ run, ∀ call ∈ flat.holes.map (·.1),
        Shown ⟨.call call, .block names.buffer :: around⟩) →
      ∀ place ∈ Code.statementWalk picking (Code.statementsOf names parts run number)
        (.block names.buffer :: around), Shown place := by
  induction parts with
  | nil =>
      intro run hrun
      rw [Code.statementsOf]
      exact compiles.flushRun_places hrun
  | cons part rest ih =>
      intro run hrun
      rw [List.forall_mem_cons] at known h
      rw [Code.statementsOf]
      by_cases hbranch : part.containsBranch = true
      · have hrest := ih known.2 h.2 none (by simp)
        rw [if_pos hbranch, Code.statementWalk_append, List.forall_mem_append]
        refine ⟨compiles.flushRun_places hrun, ?_⟩
        rw [Code.statementWalk, List.cons_append, List.forall_mem_cons, List.forall_mem_append]
        exact ⟨compiles.append, h.1, hrest⟩
      · -- A flat part adds its calls to those that are kept back.
        have hpart := compiles.flatten_calls number _ part known.1
        rw [if_neg hbranch]
        refine ih known.2 h.2 _ fun flat hflat => ?_
        obtain rfl := Option.some.inj hflat
        rw [Flat.calls_append, List.forall_mem_append]
        refine ⟨?_, hpart⟩
        cases run with
        | none => simp [Flat.empty]
        | some before => exact hrun before rfl

/-- **What is to be shown of places holds of all places of compiled code** that a walk comes
to. -/
theorem forall_walk (node : Node) : ∀ (number : Option String) (around : List Layer),
    Known node number around →
      ∀ place ∈ (Code.ofNode names node number).walk picking around, Shown place := by
  have flat_walk : ∀ (node : Node) (number : Option String) (around : List Layer),
      Known node number around →
        ∀ place ∈ (Code.flat (Code.flatten names number node)).walk picking around,
          Shown place := by
    intro node number around known
    rw [Code.walk]
    exact compiles.flat_places (compiles.flatten_calls number around node known)
  induction node using Node.treeInduction with
  | sequence parts ih =>
      intro number around known
      rw [Code.ofNode]
      by_cases hbranch : Node.anyContainsBranch parts = true
      · have hknown := compiles.part (compiles.block known)
        rw [if_pos hbranch, Code.walk, List.forall_mem_append, List.forall_mem_singleton]
        refine ⟨?_, compiles.giveBack⟩
        exact compiles.statementsOf_places hknown
          (fun part hpart => ih part hpart number _ (hknown part hpart)) none (by simp)
      · rw [if_neg hbranch]
        exact flat_walk (.sequence parts) number around known
  | literal text => exact fun number around => flat_walk (.literal text) number around
  | numberField => exact fun number around => flat_walk .numberField number around
  | placeholder name => exact fun number around => flat_walk (.placeholder name) number around
  | branch choice ih =>
      intro number around known
      let inside := Code.optionNumber choice.kind choice.name number
      rw [Code.ofNode_branch, Code.walk_resolve_mapContents, List.forall_mem_cons]
      refine ⟨compiles.branch known, fun place hplace => ?_⟩
      obtain ⟨content, hcontent, hplace⟩ := List.mem_flatMap.mp hplace
      rcases Code.armOf_cases names inside content with ⟨text, htext⟩ | hlazy
      · rw [htext] at hplace
        obtain rfl := List.mem_singleton.mp hplace
        exact compiles.text
      · rw [hlazy] at hplace
        rcases List.mem_cons.mp hplace with rfl | hbody
        · exact compiles.lazy known content hcontent
        · obtain ⟨option, hoption, rfl⟩ := picking.exists_option hcontent
          exact ih option hoption inside _ (compiles.content known option.2 hcontent) place hbody

end Compiles

end MessageTemplate
