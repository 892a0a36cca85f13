/-
Compiled templates say what rendering says.

Rendering carries the active number and restores it; compiled code names the nearest
plural branch and asks for its number again.  The two agree because an arm of a plural
branch runs only when the value of the branch has a number, and then that number is the
one rendering carries.  So the invariant of the induction is one equation, for every
name of a nearest plural branch and not only for those that are met: code compiled
under a name runs as its tree renders under `activeNumber` of that name.

Arms are compared as a list.  They have the keys of the options in the same order, and
each arm renders as its option does.  A branch looks at nothing else when it decides what to
report and which content to put out (`Branch.problem?_mapContents`,
`Branch.content?_mapContents`).
-/
import MessageTemplate.Proofs.Choice
import MessageTemplate.Proofs.Compiled.Flat

namespace MessageTemplate

section

variable {σ : Type} (sink : Sink σ) (values : Values)

/-! ### Resolvers choose what rendering chooses -/

/-- The arms of a call do what the options of a branch do under a number. -/
def ArmsAgree (arms : List (String × Arm σ)) (options : List (String × Rendering σ))
    (number : Option Binary64) : Prop :=
  (arms.map fun arm => (arm.1, arm.2.render))
    = options.map fun option => (option.1, option.2 number)

variable {sink values} {arms : List (String × Arm σ)} {options : List (String × Rendering σ)}
  {number : Option Binary64}

/-- The number that rendering hands on to the contents of a branch is the one that they are
compiled for. -/
theorem numberInside_activeNumber {α : Type} (choice : Branch α) (number : Option String) :
    choice.numberInside values (activeNumber values number)
      = activeNumber values (Code.optionNumber choice.kind choice.name number) := by
  unfold Branch.numberInside Code.optionNumber
  cases choice.kind <;> rfl

/-- A resolver call does what its branch does, if the arms agree under the number that
their contents are compiled for. -/
theorem Resolve.branch_eq (kind : BranchKind) (name : String) (number : Option String)
    (agree : ArmsAgree arms options
      (activeNumber values (Code.optionNumber kind name number))) :
    Resolve.branch sink values kind name arms
      = renderBranch sink values { name, kind, options } (activeNumber values number) := by
  let call : Branch (Arm σ) := { name, kind, options := arms }
  let choice : Branch (Rendering σ) := { name, kind, options }
  let inside := activeNumber values (Code.optionNumber kind name number)
  -- With the same contents the two are one branch, which decides alike.
  have hbranch : call.mapContents Arm.render = choice.mapContents (· inside) :=
    congrArg (fun options => { name, kind, options : Branch (StateM σ String) }) agree
  have hproblem : call.problem? values = choice.problem? values := by
    rw [← Branch.problem?_mapContents Arm.render, hbranch, Branch.problem?_mapContents]
  have hcontent : (call.content? values).map Arm.render
      = (choice.content? values).map (· inside) := by
    rw [← Branch.content?_mapContents, hbranch, Branch.content?_mapContents]
  have hinside : choice.numberInside values (activeNumber values number) = inside :=
    numberInside_activeNumber choice number
  refine (Resolve.branch_eq_choice sink values kind name arms).trans ?_
  rw [renderBranch_eq]
  change (sink.warnIfAny (call.problem? values) >>= fun _ => _) = _
  rw [hproblem, hinside]
  refine bind_congr fun _ => ?_
  cases hcall : call.content? values with
  | none =>
      rw [hcall, Option.map_none, eq_comm, Option.map_eq_none_iff] at hcontent
      rw [hcontent]
      rfl
  | some arm =>
      rw [hcall, Option.map_some, eq_comm, Option.map_eq_some_iff] at hcontent
      obtain ⟨content, hchoice, hrender⟩ := hcontent
      rw [hchoice]
      exact hrender.symm

namespace Code

variable {names : CodeNames}

/-! ### Blocks -/

/-- The statement for a run of flat parts appends what the run gives. -/
theorem flushRun_run {scope : Scope} {run : Option Flat} {rest : List (Statement Code)}
    {before after : StateM σ String}
    (hrun : (run.getD Flat.empty).run? sink values scope = some before)
    (hrest : runStatements? sink values rest names.buffer scope = some after) :
    runStatements? sink values (flushRun names run ++ rest) names.buffer scope = some do
      let text ← before
      let texts ← after
      return text ++ texts := by
  cases run with
  | none =>
      obtain rfl : pure "" = before := by simpa using hrun
      simp only [flushRun, List.nil_append, hrest, pure_bind, String.empty_append, bind_pure]
  | some flat =>
      simp only [Option.getD_some] at hrun
      by_cases htext : flat.isText = true
      · rw [Flat.run?_of_isText htext] at hrun
        obtain rfl := Option.some.inj hrun
        simp only [flushRun, htext, if_true, List.cons_append, List.nil_append,
          runStatements?, hrest, Option.bind_eq_bind, Option.bind_some, pure_bind]
        rfl
      · simp only [flushRun]
        rw [if_neg htext]
        simp only [List.cons_append, List.nil_append, runStatements?, if_true, run?, hrun,
          hrest, Option.bind_eq_bind, Option.bind_some]
        rfl

/-! ### Arms -/

/-- Code that runs wherever it is served runs as a lazy arm, with or without a parameter
of its own. -/
theorem lazyArm_run (distinct : names.Distinct) {scope : Scope} (serves : scope.Serves names)
    (key : String) (content : Node) {body : Code} {run : StateM σ String}
    {rest : List (String × ArmCode Code)} {arms : List (String × Arm σ)}
    (hbody : ∀ inner : Scope, inner.Serves names → body.run? sink values inner = some run)
    (hrest : runArms? sink values rest scope = some arms) :
    runArms? sink values ((key, .lazy (armParameter names content) body) :: rest) scope
      = some ((key, .lazy run) :: arms) := by
  cases hparameter : armParameter names content with
  | none => simp [runArms?, hbody scope serves, hrest]
  | some parameter =>
      obtain rfl : names.sink = parameter := by
        unfold armParameter at hparameter
        split at hparameter
        · simp at hparameter
        · exact Option.some.inj hparameter
      simp [runArms?, hbody _ (serves.underSink distinct), hrest]

/-- The arm for flat content: its text, or its code as a lazy arm. -/
theorem flatArm_run (distinct : names.Distinct) {scope : Scope} (serves : scope.Serves names)
    (key : String) (content : Node) {flat : Flat} {run : StateM σ String}
    {rest : List (String × ArmCode Code)} {arms : List (String × Arm σ)}
    (hflat : ∀ inner : Scope, inner.Serves names → flat.run? sink values inner = some run)
    (hrest : runArms? sink values rest scope = some arms) :
    ∃ arm : Arm σ, arm.render = run ∧
      runArms? sink values ((key, flatArm names content flat) :: rest) scope
        = some ((key, arm) :: arms) := by
  by_cases htext : flat.isText = true
  · have hrun := hflat scope serves
    rw [Flat.run?_of_isText htext] at hrun
    refine ⟨.text flat.first, Option.some.inj hrun, ?_⟩
    rw [flatArm, if_pos htext]
    simp [runArms?, hrest]
  · refine ⟨.lazy run, rfl, ?_⟩
    rw [flatArm, if_neg htext]
    exact lazyArm_run distinct serves key content hflat hrest

theorem ArmsAgree.cons {arm : Arm σ} {content : Rendering σ} (key : String)
    (head : arm.render = content number) (agree : ArmsAgree arms options number) :
    ArmsAgree ((key, arm) :: arms) ((key, content) :: options) number := by
  unfold ArmsAgree at agree ⊢
  rw [List.map_cons, List.map_cons, agree, head]

/-! ### Every tree -/

mutual

/-- **Code compiled under the name of a nearest plural branch runs as its tree renders
under the number of that name.** -/
theorem ofNode_run (distinct : names.Distinct) :
    ∀ (node : Node) (number : Option String) (scope : Scope), scope.Serves names →
      (ofNode names node number).run? sink values scope
        = some (node.renderUnder sink values (activeNumber values number))
  | .branch choice, number, scope, serves => by
      obtain ⟨arms, harms, agree⟩ := armsOf_run distinct choice.options
        (optionNumber choice.kind choice.name number) scope serves
      rw [ofNode, Node.renderUnder]
      simp only [run?, serves.values, serves.sink, Bool.and_self, if_true, harms]
      exact congrArg some (Resolve.branch_eq choice.kind choice.name number agree)
  | .sequence parts, number, scope, serves => by
      rw [ofNode, Node.renderUnder]
      by_cases hbranch : Node.anyContainsBranch parts = true
      · have h := statementsOf_run distinct parts none number (pure "") _
          (serves.underBuffer distinct) (by simp)
        simp only [pure_bind, String.empty_append, bind_pure] at h
        simp only [hbranch, if_true, run?, h]
      · rw [if_neg hbranch]
        simp only [run?]
        exact flattenParts_run serves number parts (by simpa using hbranch)
  | .literal text, number, scope, serves =>
      flatten_run serves number (.literal text) rfl
  | .numberField, number, scope, serves =>
      flatten_run serves number .numberField rfl
  | .placeholder name, number, scope, serves =>
      flatten_run serves number (.placeholder name) rfl

/-- The statements of a block append what the flat parts kept back give, and then what
the parts give. -/
theorem statementsOf_run (distinct : names.Distinct) :
    ∀ (parts : List Node) (run : Option Flat) (number : Option String)
      (before : StateM σ String) (scope : Scope), scope.Serves names →
      (run.getD Flat.empty).run? sink values scope = some before →
      runStatements? sink values (statementsOf names parts run number) names.buffer scope
        = some do
          let text ← before
          let texts ← Node.renderParts sink values parts (activeNumber values number)
          return text ++ texts
  | [], run, number, before, scope, serves, hrun => by
      rw [statementsOf, Node.renderParts, ← List.append_nil (flushRun names run)]
      exact flushRun_run hrun rfl
  | part :: rest, run, number, before, scope, serves, hrun => by
      rw [statementsOf, Node.renderParts]
      by_cases hbranch : part.containsBranch = true
      · have hpart := ofNode_run distinct part number scope serves
        have hrest := statementsOf_run distinct rest none number (pure "") scope
          serves (by simp)
        simp only [pure_bind, String.empty_append, bind_pure] at hrest
        simp only [hbranch, if_true]
        refine flushRun_run hrun ?_
        simp only [runStatements?, if_true, hpart, hrest, Option.bind_eq_bind,
          Option.bind_some]
        rfl
      · -- A flat part only makes the text kept back longer.
        have hpart : (flatten names number part).run? sink values scope = some _ :=
          flatten_run serves number part (by simpa using hbranch)
        have hrest := statementsOf_run distinct rest
          (some ((run.getD Flat.empty).append (flatten names number part))) number _ scope
          serves (Flat.run?_append hrun hpart)
        rw [if_neg hbranch, hrest]
        simp only [bind_assoc, pure_bind, String.append_assoc]

/-- The arms of a call agree with the options, each resolved where it stands. -/
theorem armsOf_run (distinct : names.Distinct) :
    ∀ (options : List (String × Node)) (number : Option String) (scope : Scope),
      scope.Serves names →
      ∃ arms, runArms? sink values (armsOf names options number) scope = some arms ∧
        ArmsAgree arms (Node.optionRenderings sink values options)
          (activeNumber values number)
  | [], number, scope, serves => ⟨[], rfl, rfl⟩
  | (key, content) :: rest, number, scope, serves => by
      obtain ⟨arms, harms, agree⟩ := armsOf_run distinct rest number scope serves
      rw [armsOf, Node.optionRenderings]
      by_cases hbranch : content.containsBranch = true
      · refine ⟨(key, .lazy (content.renderUnder sink values (activeNumber values number)))
          :: arms, ?_, ArmsAgree.cons key rfl agree⟩
        rw [if_pos hbranch]
        exact lazyArm_run distinct serves key content
          (fun inner h => ofNode_run distinct content number inner h) harms
      · obtain ⟨arm, hrender, harm⟩ := flatArm_run distinct serves key content
          (fun inner h => flatten_run h number content (by simpa using hbranch)) harms
        refine ⟨(key, arm) :: arms, ?_, ArmsAgree.cons key hrender agree⟩
        rw [if_neg hbranch]
        exact harm

end

end Code

/--
**A compiled template runs, and says and reports exactly what rendering does.**

The equation is between computations, so it covers every state of the sink: the text,
the diagnostics, their order and how often each comes.
-/
theorem compile_run_eq_render (node : Node) (names : CodeNames) (distinct : names.Distinct)
    (sink : Sink σ) (values : Values) :
    (node.compile names).run? sink values (Scope.ofParameters names.values names.sink)
      = some (node.render sink values) :=
  Code.ofNode_run distinct node none _ (Scope.Serves.ofParameters distinct)

end

/-- A select branch inside a plural branch, with a number field inside, beside and outside,
where one value stands for a number and the other is missing. -/
theorem compile_run_eq_render_nested :
    CodeNames.standard.Distinct ∧
      let values : Values := (∅ : Values).insert "a" (.string " 1 ")
      let inner : Node := .branch
        { name := "b", kind := .select, options := [("other", .sequence [.numberField])] }
      let outer : Node := .sequence
        [.numberField, .branch
          { name := "a", kind := .plural, options :=
              [("=1", .sequence [.numberField, inner]), ("few", .literal "")] }]
      (outer.compile CodeNames.standard).run? Sink.keepAll values
          (Scope.ofParameters "values" "sink")
        = some (outer.render Sink.keepAll values) :=
  have distinct : CodeNames.standard.Distinct := ⟨by decide, by decide, by decide⟩
  ⟨distinct, compile_run_eq_render _ _ distinct _ _⟩

end MessageTemplate
