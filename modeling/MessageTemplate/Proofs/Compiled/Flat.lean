/-
Flat code runs as its tree renders.

A tree without branches compiles to fixed texts with calls in between, and every text
that meets a text becomes one with it.  Running such code calls from left to right and
puts the texts between the answers, so what has to be shown is that merging loses
nothing: `run?_append` says that one flat code after the other runs as the two one
after the other, and `flatten_run` follows the tree from there.

The one call that rendering does not make is the one for a number field.  The compiler
knows the name of the nearest plural branch and asks for its value again; rendering
carries the number itself.  `activeNumber` is what links the two, the number that the
value of a name stands for, and with it the statement needs no assumption on values.
-/
import MessageTemplate.Compiled.Run
import MessageTemplate.Render

namespace MessageTemplate

/-- The three identifiers of compiled code are different from each other. -/
structure CodeNames.Distinct (names : CodeNames) : Prop where
  values_ne_sink : names.values ≠ names.sink
  values_ne_buffer : names.values ≠ names.buffer
  sink_ne_buffer : names.sink ≠ names.buffer

/-- A scope in which the values and the sink are found under their names. -/
structure Scope.Serves (scope : Scope) (names : CodeNames) : Prop where
  values : scope.binds names.values .values = true
  sink : scope.binds names.sink .sink = true

namespace Scope.Serves

variable {scope : Scope} {names : CodeNames}

theorem ofParameters (distinct : names.Distinct) :
    (Scope.ofParameters names.values names.sink).Serves names := by
  have hne : (names.values == names.sink) = false := by simpa using distinct.values_ne_sink
  constructor
  · simp [Scope.binds, Scope.ofParameters, List.lookup_cons, hne]
  · simp [Scope.binds, Scope.ofParameters]

/-- The parameter of a lazy arm hides nothing but the sink around it. -/
theorem underSink (serves : scope.Serves names) (distinct : names.Distinct) :
    Serves ((names.sink, .sink) :: scope) names := by
  have hne : (names.values == names.sink) = false := by simpa using distinct.values_ne_sink
  constructor
  · simpa [Scope.binds, List.lookup_cons, hne] using serves.values
  · simp [Scope.binds]

/-- The buffer of a block hides neither the values nor the sink. -/
theorem underBuffer (serves : scope.Serves names) (distinct : names.Distinct) :
    Serves ((names.buffer, .buffer) :: scope) names := by
  have hv : (names.values == names.buffer) = false := by simpa using distinct.values_ne_buffer
  have hs : (names.sink == names.buffer) = false := by simpa using distinct.sink_ne_buffer
  constructor
  · simpa [Scope.binds, List.lookup_cons, hv] using serves.values
  · simpa [Scope.binds, List.lookup_cons, hs] using serves.sink

end Scope.Serves

section

variable {σ : Type} (sink : Sink σ) (values : Values)

/-- The active number inside a plural branch on a name, if there is such a branch. -/
def activeNumber (number : Option String) : Option Binary64 :=
  number.bind fun name => values[name]?.bind Value.pluralOperand?

/-! ### The calls of flat code -/

/-- Asking for the number of a name shows what a number field under that name shows. -/
theorem Resolve.number_eq (name : String) :
    Resolve.number values name = numberFieldText (activeNumber values (some name)) := by
  unfold Resolve.number activeNumber
  cases h : values[name]?.bind Value.pluralOperand? with
  | none => simp [h, numberFieldText, Resolve.braced]
  | some n => simp [h, numberFieldText]

theorem Resolve.text_eq (name : String) :
    Resolve.text sink values name = renderPlaceholder sink values name := by
  unfold Resolve.text renderPlaceholder
  rfl

namespace Flat

variable {sink values} {scope : Scope}

/-! ### Texts that meet -/

theorem runHoles?_append {first second : List (Call × String)} {run run' : StateM σ String}
    (hfirst : runHoles? sink values scope first = some run)
    (hsecond : runHoles? sink values scope second = some run') :
    runHoles? sink values scope (first ++ second) = some do
      let text ← run
      let text' ← run'
      return text ++ text' := by
  induction first generalizing run with
  | nil =>
      obtain rfl : pure "" = run := by simpa [runHoles?] using hfirst
      simp only [List.nil_append, hsecond, pure_bind, String.empty_append, bind_pure]
  | cons hole rest ih =>
      obtain ⟨call, after⟩ := hole
      simp only [runHoles?, Option.bind_eq_bind, Option.bind_eq_some_iff] at hfirst
      obtain ⟨runCall, hcall, runRest, hrest, hrun⟩ := hfirst
      obtain rfl := Option.some.inj hrun
      simp only [List.cons_append, runHoles?, hcall, ih hrest, Option.bind_eq_bind,
        Option.bind_some, bind_assoc, pure_bind, String.append_assoc]
      rfl

/-- A text after the last hole comes out after all that the holes give. -/
theorem runHoles?_appendText (text : String) :
    ∀ (holes : List (Call × String)) (first : String) {run : StateM σ String},
      runHoles? sink values scope holes = some run →
      ∃ run', runHoles? sink values scope (appendText first text holes).2 = some run' ∧
        (do let texts ← run'; return (appendText first text holes).1 ++ texts)
          = (do let texts ← run; return first ++ texts ++ text : StateM σ String) := by
  intro holes
  induction holes with
  | nil =>
      intro first run h
      obtain rfl : pure "" = run := by simpa [runHoles?] using h
      exact ⟨pure "", by simp [appendText, runHoles?], by simp [appendText]⟩
  | cons hole rest ih =>
      intro first run h
      obtain ⟨call, after⟩ := hole
      simp only [runHoles?, Option.bind_eq_bind, Option.bind_eq_some_iff] at h
      obtain ⟨runCall, hcall, runRest, hrest, hrun⟩ := h
      obtain rfl := Option.some.inj hrun
      obtain ⟨run', hrun', heq⟩ := ih after hrest
      refine ⟨do
        let text' ← runCall
        let texts ← run'
        return text' ++ (appendText after text rest).1 ++ texts, ?_, ?_⟩
      · simp only [appendText, runHoles?, hcall, hrun']
        rfl
      · simp only [appendText, bind_assoc, pure_bind]
        refine bind_congr fun text' => ?_
        -- What the rest gives is put behind one more answer on both sides.
        have := congrArg (fun r : StateM σ String => do
          let texts ← r
          return first ++ (text' ++ texts)) heq
        simpa only [bind_assoc, pure_bind, String.append_assoc] using this

/-- **One flat code after another runs as the two, one after the other.** -/
theorem run?_append {a b : Flat} {run run' : StateM σ String}
    (ha : a.run? sink values scope = some run) (hb : b.run? sink values scope = some run') :
    (a.append b).run? sink values scope = some do
      let text ← run
      let text' ← run'
      return text ++ text' := by
  simp only [run?, Option.bind_eq_bind, Option.bind_eq_some_iff] at ha hb
  obtain ⟨runA, hrunA, ha⟩ := ha
  obtain ⟨runB, hrunB, hb⟩ := hb
  obtain rfl := Option.some.inj ha
  obtain rfl := Option.some.inj hb
  obtain ⟨run', hrun', heq⟩ := runHoles?_appendText b.first a.holes a.first hrunA
  have hholes := runHoles?_append hrun' hrunB
  simp only [append, run?, hholes, Option.bind_eq_bind, Option.bind_some]
  have := congrArg (fun r : StateM σ String => do
    let text ← r
    let texts ← runB
    return text ++ texts) heq
  simp only [bind_assoc, pure_bind, String.append_assoc] at this ⊢
  exact congrArg some this

@[simp] theorem run?_empty : Flat.empty.run? sink values scope = some (pure "") := by
  simp [Flat.empty, run?, runHoles?]

@[simp] theorem run?_ofText (text : String) :
    (ofText text).run? sink values scope = some (pure text) := by
  simp [ofText, run?, runHoles?]

theorem run?_ofCall {call : Call} {run : StateM σ String}
    (h : call.run? sink values scope = some run) :
    (ofCall call).run? sink values scope = some run := by
  simp [ofCall, run?, runHoles?, h]

/-- Flat code without calls is its first text. -/
theorem run?_of_isText {flat : Flat} (h : flat.isText = true) :
    flat.run? sink values scope = some (pure flat.first) := by
  have hholes : flat.holes = [] := by simpa [isText] using h
  simp [run?, hholes, runHoles?]

end Flat

namespace Code

variable {sink values} {names : CodeNames} {scope : Scope}

/-! ### Trees without branches -/

mutual

/-- **Flat code runs as its tree renders**, with the number of the name that stands for
the nearest plural branch. -/
theorem flatten_run (serves : scope.Serves names) (number : Option String) :
    ∀ node : Node, node.containsBranch = false →
      (flatten names number node).run? sink values scope
        = some (node.renderUnder sink values (activeNumber values number))
  | .sequence parts, h => by
      rw [flatten, Node.renderUnder]
      exact flattenParts_run serves number parts (by simpa [Node.containsBranch] using h)
  | .literal text, _ => by
      rw [flatten, Flat.run?_ofText, Node.renderUnder]
  | .numberField, _ => by
      cases number with
      | none =>
          rw [flatten, Flat.run?_ofText, Node.renderUnder]
          rfl
      | some name =>
          rw [flatten, Node.renderUnder, ← Resolve.number_eq]
          exact Flat.run?_ofCall (by simp [Call.run?, serves.values])
  | .placeholder name, _ => by
      rw [flatten, Node.renderUnder, ← Resolve.text_eq]
      exact Flat.run?_ofCall (by simp [Call.run?, serves.values, serves.sink])
  | .branch _, h => by simp [Node.containsBranch] at h

theorem flattenParts_run (serves : scope.Serves names) (number : Option String) :
    ∀ parts : List Node, Node.anyContainsBranch parts = false →
      (flattenParts names number parts).run? sink values scope
        = some (Node.renderParts sink values parts (activeNumber values number))
  | [], _ => by
      rw [flattenParts, Flat.run?_empty, Node.renderParts]
  | part :: rest, h => by
      have h' : part.containsBranch = false ∧ Node.anyContainsBranch rest = false := by
        simpa [Node.anyContainsBranch] using h
      rw [flattenParts, Node.renderParts]
      exact Flat.run?_append (flatten_run serves number part h'.1)
        (flattenParts_run serves number rest h'.2)

end

end Code

end

end MessageTemplate
