/-
What a rendering says.

Rendering is written for any sink and never looks at the state of one.  So for given values
there is one text and one list of diagnostics, and with any sink and from any state the text
comes out and the diagnostics are reported in order (`Says`).  Computations compose: what the
one says stands before what the other says, and the diagnostics of the one come before those
of the other.
-/
import MessageTemplate.Proofs.Choice

namespace MessageTemplate

/-- The state after several diagnostics. -/
def Sink.reportAll {σ : Type} (sink : Sink σ) (diagnostics : List Diagnostic) (state : σ) : σ :=
  diagnostics.foldl (fun state diagnostic => sink.report diagnostic state) state

theorem Sink.reportAll_append {σ : Type} (sink : Sink σ) (first second : List Diagnostic)
    (state : σ) : sink.reportAll (first ++ second) state
      = sink.reportAll second (sink.reportAll first state) :=
  List.foldl_append

/-- What is kept is what was reported. -/
theorem Sink.reportAll_keepAll (diagnostics kept : List Diagnostic) :
    keepAll.reportAll diagnostics kept = kept ++ diagnostics := by
  induction diagnostics generalizing kept with
  | nil => exact (List.append_nil kept).symm
  | cons diagnostic rest ih =>
      refine (ih (kept ++ [diagnostic])).trans ?_
      rw [List.append_assoc, List.singleton_append]

/-- A computation that gives a text and reports diagnostics to a sink, from every state. -/
def SaysTo {σ : Type} (sink : Sink σ) (run : StateM σ String) (text : String)
    (diagnostics : List Diagnostic) : Prop :=
  ∀ state : σ, run.run state = (text, sink.reportAll diagnostics state)

/-- A computation that gives a text and reports diagnostics, with every sink and from every
state. -/
def Says (run : ∀ σ : Type, Sink σ → StateM σ String) (text : String)
    (diagnostics : List Diagnostic) : Prop :=
  ∀ (σ : Type) (sink : Sink σ) (state : σ),
    (run σ sink).run state = (text, sink.reportAll diagnostics state)

/-- A computation that says something. -/
def Speaks (run : ∀ σ : Type, Sink σ → StateM σ String) : Prop :=
  ∃ text diagnostics, Says run text diagnostics

namespace SaysTo

variable {σ : Type} {sink : Sink σ} {run next : StateM σ String} {text more : String}
  {diagnostics others : List Diagnostic}

theorem pure (text : String) : SaysTo sink (Pure.pure text) text [] :=
  fun _ => rfl

/-- A text and then another, put together in some way. -/
theorem combine (h : SaysTo sink run text diagnostics) (join : String → String → String)
    (hnext : SaysTo sink next more others) :
    SaysTo sink (do
      let text ← run
      let more ← next
      return join text more) (join text more) (diagnostics ++ others) := by
  intro state
  rw [StateT.run_bind, h]
  change (next >>= fun more => Pure.pure (join text more)).run
    (sink.reportAll diagnostics state) = _
  rw [StateT.run_bind, hnext, Sink.reportAll_append]
  rfl

/-- A text and then another. -/
theorem append (h : SaysTo sink run text diagnostics) (hnext : SaysTo sink next more others) :
    SaysTo sink (do
      let text ← run
      let more ← next
      return text ++ more) (text ++ more) (diagnostics ++ others) :=
  h.combine (· ++ ·) hnext

/-- A diagnostic, if there is one, and then a text. -/
theorem warnIfAny (diagnostic : Option Diagnostic) (h : SaysTo sink run text diagnostics) :
    SaysTo sink (do
      sink.warnIfAny diagnostic
      run) text (diagnostic.toList ++ diagnostics) := by
  cases diagnostic with
  | none => exact h
  | some diagnostic => exact fun state => h (sink.report diagnostic state)

end SaysTo

/-- What is said to every sink, one computation after another. -/
theorem Says.append {run next : ∀ σ : Type, Sink σ → StateM σ String} {text more : String}
    {diagnostics others : List Diagnostic} (h : Says run text diagnostics)
    (hnext : Says next more others) :
    Says (fun σ sink => do
      let text ← run σ sink
      let more ← next σ sink
      return text ++ more) (text ++ more) (diagnostics ++ others) :=
  fun σ sink => SaysTo.append (h σ sink) (hnext σ sink)

end MessageTemplate
