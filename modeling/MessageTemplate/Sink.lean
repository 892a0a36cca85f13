/-
Sinks: where diagnostics go.

A sink is a way to change a state for each diagnostic.  Everything that renders is
written for any sink and any state, so what a sink does cannot show in the output.
-/
import MessageTemplate.Diagnostic

namespace MessageTemplate

/-- A receiver of diagnostics that keeps a state of type `σ`. -/
structure Sink (σ : Type) where
  /-- The state after one more diagnostic. -/
  report : Diagnostic → σ → σ

namespace Sink

/-- Keeps every diagnostic, in order. -/
def keepAll : Sink (List Diagnostic) :=
  { report := fun diagnostic kept => kept ++ [diagnostic] }

/-- Keeps each diagnostic once, where it came first. -/
def collector : Sink (List Diagnostic) :=
  { report := fun diagnostic kept =>
      if kept.contains diagnostic then kept else kept ++ [diagnostic] }

/-- Forgets every diagnostic. -/
def discard {σ : Type} : Sink σ :=
  { report := fun _ state => state }

/-- Reports a diagnostic in the course of a rendering. -/
def warn {σ : Type} (sink : Sink σ) (diagnostic : Diagnostic) : StateM σ Unit :=
  modify (sink.report diagnostic)

end Sink

end MessageTemplate
