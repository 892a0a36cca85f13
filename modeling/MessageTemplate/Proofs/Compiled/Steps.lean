/-
What running code comes to.

Running code comes to a place after another, and of a resolver call it enters only the arm that
is chosen.  These places are the steps of the code.  What is put out and reported at a step is
told from the step and the values alone, and running says exactly what the steps say, in their
order (`Code.saysTo_walk`).  So what is to be said of every run is said of every step.

Running resolves all arms before one of them is chosen, so the arms that are chosen from are
computations and not code.  They are paired with the code that they came from, which has the
same keys; the choice looks at nothing else.
-/
import MessageTemplate.Compiled.Run
import MessageTemplate.Proofs.Compiled.Places
import MessageTemplate.Proofs.Rendering

namespace MessageTemplate

namespace CodePlace

variable (values : Values)

/-- The text that is put out at a place. -/
def text (place : CodePlace) : String :=
  match place.action with
  | .text text => text
  | .call (.text _ _ name) => values[name]?.elim (Resolve.braced name) Value.display
  | .call (.number _ name) => Resolve.number values name
  | .resolve choice _ _ => (choice.content? values).elim (Resolve.braced choice.name) fun _ => ""
  | _ => ""

/-- What is reported at a place. -/
def report? (place : CodePlace) : Option Diagnostic :=
  match place.action with
  | .call (.text _ _ name) => values[name]?.elim (some (.missingValue name)) fun _ => none
  | .resolve choice _ _ => choice.problem? values
  | _ => none

/-- The text that is put out at places, one after another. -/
def textOf (places : List CodePlace) : String :=
  String.join (places.map (·.text values))

/-- What is reported at places, one after another. -/
def reportsOf (places : List CodePlace) : List Diagnostic :=
  places.filterMap (·.report? values)

variable {values}

@[simp] theorem textOf_nil : textOf values [] = "" := rfl

@[simp] theorem textOf_cons (place : CodePlace) (places : List CodePlace) :
    textOf values (place :: places) = place.text values ++ textOf values places := by
  simp [textOf]

@[simp] theorem textOf_append (places others : List CodePlace) :
    textOf values (places ++ others) = textOf values places ++ textOf values others := by
  simp [textOf, String.join_append]

@[simp] theorem reportsOf_nil : reportsOf values [] = [] := rfl

@[simp] theorem reportsOf_cons (place : CodePlace) (places : List CodePlace) :
    reportsOf values (place :: places)
      = (place.report? values).toList ++ reportsOf values places := by
  cases h : place.report? values <;> simp [reportsOf, h]

@[simp] theorem reportsOf_append (places others : List CodePlace) :
    reportsOf values (places ++ others) = reportsOf values places ++ reportsOf values others :=
  List.filterMap_append

end CodePlace

open CodePlace (textOf reportsOf)

variable {σ : Type} {sink : Sink σ} {values : Values}

/-! ### Flat code -/

/-- A call says what is said at its place. -/
theorem Call.saysTo_run {call : Call} {scope : Scope} {run : StateM σ String}
    (h : call.run? sink values scope = some run) (around : List Layer) :
    let place : CodePlace := { action := .call call, around }
    SaysTo sink run (place.text values) (place.report? values).toList := by
  cases call with
  | text v s name =>
      by_cases hbound : (scope.binds v .values && scope.binds s .sink) = true
      · rw [run?, if_pos hbound] at h
        obtain rfl := Option.some.inj h
        cases hvalue : values[name]? with
        | none =>
            simpa [Resolve.text, CodePlace.text, CodePlace.report?, hvalue, Sink.warnIfAny]
              using (SaysTo.pure (Resolve.braced name)).warnIfAny (some (.missingValue name))
        | some value =>
            simpa [Resolve.text, CodePlace.text, CodePlace.report?, hvalue]
              using SaysTo.pure value.display
      · simp [run?, hbound] at h
  | number v name =>
      by_cases hbound : scope.binds v .values = true
      · rw [run?, if_pos hbound] at h
        obtain rfl := Option.some.inj h
        exact SaysTo.pure _
      · simp [run?, hbound] at h

/-- Calls with the texts after them say what is said at their places. -/
theorem Flat.saysTo_runHoles {holes : List (Call × String)} {scope : Scope}
    (around : List Layer) : ∀ {run : StateM σ String},
      runHoles? sink values scope holes = some run →
      let places : List CodePlace := holes.flatMap fun hole =>
        [{ action := .call hole.1, around }, { action := .text hole.2, around }]
      SaysTo sink run (textOf values places) (reportsOf values places) := by
  induction holes with
  | nil =>
      intro run h
      obtain rfl := Option.some.inj h
      exact SaysTo.pure ""
  | cons hole rest ih =>
      intro run h
      obtain ⟨call, after⟩ := hole
      simp only [runHoles?, Option.bind_eq_bind, Option.bind_eq_some_iff] at h
      obtain ⟨runCall, hcall, runRest, hrest, hrun⟩ := h
      obtain rfl := Option.some.inj hrun
      have hboth := (Call.saysTo_run hcall around).combine
        (fun text texts => text ++ after ++ texts) (ih hrest)
      simpa [CodePlace.text, CodePlace.report?, String.append_assoc] using hboth

theorem Flat.saysTo_run {flat : Flat} {scope : Scope} {run : StateM σ String}
    (h : flat.run? sink values scope = some run) (around : List Layer) :
    SaysTo sink run (textOf values (flat.places around))
      (reportsOf values (flat.places around)) := by
  simp only [run?, Option.bind_eq_bind, Option.bind_eq_some_iff] at h
  obtain ⟨runHoles, hholes, hrun⟩ := h
  obtain rfl := Option.some.inj hrun
  have hsays := (SaysTo.pure flat.first).append (saysTo_runHoles around hholes)
  simpa [places, CodePlace.text, CodePlace.report?] using hsays

/-! ### Code -/

namespace Code

/-- A computation for an arm says what the arm says. -/
def ArmSays (sink : Sink σ) (values : Values) (around : List Layer) (arm : ArmCode Code)
    (run : Arm σ) (kind : BranchKind) (name : String) : Prop :=
  let places := armWalk (.chosen values) kind name around arm
  SaysTo sink run.render (textOf values places) (reportsOf values places)

/-- Arms that have computations have them under the same keys. -/
theorem exists_pairs_of_runArms? (kind : BranchKind) (name : String) (around : List Layer)
    {arms : List (String × ArmCode Code)} {scope : Scope} {runs : List (String × Arm σ)}
    (ih : ∀ key parameter body, (key, .lazy parameter body) ∈ arms →
      ∀ (around : List Layer) (scope : Scope) (run : StateM σ String),
        body.run? sink values scope = some run →
          SaysTo sink run (textOf values (body.walk (.chosen values) around))
            (reportsOf values (body.walk (.chosen values) around)))
    (h : runArms? sink values arms scope = some runs) :
    ∃ pairs : List (String × ArmCode Code × Arm σ),
      arms = pairs.map (fun pair => (pair.1, pair.2.1)) ∧
        runs = pairs.map (fun pair => (pair.1, pair.2.2)) ∧
          ∀ pair ∈ pairs, ArmSays sink values around pair.2.1 pair.2.2 kind name := by
  induction arms generalizing runs with
  | nil =>
      obtain rfl := Option.some.inj h
      exact ⟨[], rfl, rfl, by simp⟩
  | cons arm rest ihRest =>
      have ihTail := fun key parameter body hmem =>
        ih key parameter body (List.mem_cons_of_mem _ hmem)
      obtain ⟨key, text | ⟨parameter, body⟩⟩ := arm
      · simp only [runArms?, Option.bind_eq_bind, Option.bind_eq_some_iff] at h
        obtain ⟨runRest, hrest, hruns⟩ := h
        obtain rfl := Option.some.inj hruns
        obtain ⟨pairs, rfl, rfl, hpairs⟩ := ihRest ihTail hrest
        refine ⟨(key, .text text, .text text) :: pairs, rfl, rfl, ?_⟩
        rw [List.forall_mem_cons]
        refine ⟨?_, hpairs⟩
        simpa [ArmSays, armWalk, Arm.render, CodePlace.text, CodePlace.report?]
          using SaysTo.pure text
      · simp only [runArms?, Option.bind_eq_bind, Option.bind_eq_some_iff] at h
        obtain ⟨runBody, hbody, runRest, hrest, hruns⟩ := h
        obtain rfl := Option.some.inj hruns
        obtain ⟨pairs, rfl, rfl, hpairs⟩ := ihRest ihTail hrest
        refine ⟨(key, .lazy parameter body, .lazy runBody) :: pairs, rfl, rfl, ?_⟩
        rw [List.forall_mem_cons]
        refine ⟨?_, hpairs⟩
        have hsays := ih key parameter body List.mem_cons_self
          (.arm kind name parameter :: around) _ runBody hbody
        simpa [ArmSays, armWalk, Arm.render, CodePlace.text, CodePlace.report?] using hsays

/-- A choice among computations says what is said at the places of the arms, if each of them
says what its arm does. -/
theorem saysTo_branch (choice : Branch (ArmCode Code × Arm σ)) (v s : String)
    (around : List Layer)
    (h : ∀ option ∈ choice.options,
      ArmSays sink values around option.2.1 option.2.2 choice.kind choice.name) :
    let places := (Code.resolve choice.kind v s choice.name (choice.mapContents (·.1)).options).walk
      (.chosen values) around
    SaysTo sink
      (Resolve.branch sink values choice.kind choice.name (choice.mapContents (·.2)).options)
      (textOf values places) (reportsOf values places) := by
  intro places
  have hplaces : places = _ := walk_resolve_mapContents (·.1) choice v s around
  rw [hplaces, Resolve.branch_mapContents, CodePlace.textOf_cons, CodePlace.reportsOf_cons]
  cases hcontent : choice.content? values with
  | none =>
      simpa [CodePlace.text, CodePlace.report?, hcontent]
        using (SaysTo.pure (Resolve.braced choice.name)).warnIfAny (choice.problem? values)
  | some pair =>
      obtain ⟨option, hoption, rfl⟩ := Branch.mem_of_content? hcontent
      simpa [CodePlace.text, CodePlace.report?, hcontent]
        using (h option hoption).warnIfAny (choice.problem? values)

/-- Statements say what is said at their places. -/
theorem saysTo_runStatements? {buffer : String} (around : List Layer)
    {statements : List (Statement Code)}
    (ih : ∀ target code, .pushCode target code ∈ statements →
      ∀ (around : List Layer) (scope : Scope) (run : StateM σ String),
        code.run? sink values scope = some run →
          SaysTo sink run (textOf values (code.walk (.chosen values) around))
            (reportsOf values (code.walk (.chosen values) around)))
    {scope : Scope} {run : StateM σ String}
    (h : runStatements? sink values statements buffer scope = some run) :
    SaysTo sink run (textOf values (statementWalk (.chosen values) statements around))
      (reportsOf values (statementWalk (.chosen values) statements around)) := by
  induction statements generalizing run with
  | nil =>
      obtain rfl := Option.some.inj h
      exact SaysTo.pure ""
  | cons statement rest ihRest =>
      have ihTail := fun target code hmem => ih target code (List.mem_cons_of_mem _ hmem)
      cases statement with
      | pushText target text =>
          by_cases htarget : target = buffer
          · simp only [runStatements?, if_pos htarget, Option.bind_eq_bind,
              Option.bind_eq_some_iff] at h
            obtain ⟨runRest, hrest, hrun⟩ := h
            obtain rfl := Option.some.inj hrun
            have hboth := (SaysTo.pure text).append (ihRest ihTail hrest)
            simpa [statementWalk, CodePlace.text, CodePlace.report?] using hboth
          · simp [runStatements?, htarget] at h
      | pushCode target code =>
          by_cases htarget : target = buffer
          · simp only [runStatements?, if_pos htarget, Option.bind_eq_bind,
              Option.bind_eq_some_iff] at h
            obtain ⟨runCode, hcode, runRest, hrest, hrun⟩ := h
            obtain rfl := Option.some.inj hrun
            have hsays := ih target code List.mem_cons_self around scope runCode hcode
            have hboth := hsays.append (ihRest ihTail hrest)
            simpa [statementWalk, CodePlace.text, CodePlace.report?] using hboth
          · simp [runStatements?, htarget] at h

/-- **Running code says what its steps say**, one after another. -/
theorem saysTo_walk (code : Code) : ∀ (around : List Layer) (scope : Scope)
    (run : StateM σ String), code.run? sink values scope = some run →
      SaysTo sink run (textOf values (code.walk (.chosen values) around))
        (reportsOf values (code.walk (.chosen values) around)) := by
  induction code using codeInduction with
  | flat pieces =>
      intro around scope run h
      exact Flat.saysTo_run h around
  | resolve kind v s name arms ih =>
      intro around scope run h
      by_cases hbound : (scope.binds v .values && scope.binds s .sink) = true
      · simp only [run?, if_pos hbound, Option.bind_eq_bind, Option.bind_eq_some_iff] at h
        obtain ⟨runs, hruns, hrun⟩ := h
        obtain rfl := Option.some.inj hrun
        obtain ⟨pairs, rfl, rfl, hpairs⟩ := exists_pairs_of_runArms? kind name around ih hruns
        exact saysTo_branch { name, kind, options := pairs } v s around hpairs
      · simp [run?, hbound] at h
  | block buffer statements result ih =>
      intro around scope run h
      by_cases hresult : result = buffer
      · rw [run?, if_pos hresult] at h
        have hsays := saysTo_runStatements? (.block buffer :: around) ih h
        simpa [walk, CodePlace.text, CodePlace.report?] using hsays
      · simp [run?, hresult] at h

end Code

end MessageTemplate
