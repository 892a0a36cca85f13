/-
Sinks do not matter.

A sink changes its state with each diagnostic, and nothing that renders looks at that state.  So
a request, of whatever kind, has one text and one list of diagnostics (`Request.says_answer`), and what
a sink can do is to keep something of what it is told.  For compiled messages this takes one fact
more, since code that uses an identifier out of scope does not run: whether it runs is told from
its scope alone (`Code.isSome_run?`).

A collector that is told of several requests is told of one list of diagnostics, which is that of
the first request with those of the others behind it.  It keeps the firsts of that list.  This is
said of one report, whatever has been kept before, and follows for all of them by induction
(`AreFirsts.report`, `areFirsts_reportAll`).
-/
import MessageTemplate.Proofs.Compiled.Steps
import MessageTemplate.Proofs.Visits
import MessageTemplate.Translator
import Mathlib.Data.List.Nodup

namespace MessageTemplate

/-! ### Whether code runs -/

section

/-- Two computations are there together exactly if each of them is. -/
theorem isSome_bind_bind {α β γ : Type} (first : Option α) (second : Option β) (f : α → β → γ) :
    (first.bind fun a => second.bind fun b => some (f a b)).isSome
      = (first.isSome && second.isSome) := by
  cases first <;> cases second <;> rfl

variable {σ τ : Type} (sink : Sink σ) (other : Sink τ) (values others : Values)

theorem Call.isSome_run? (call : Call) (scope : Scope) :
    (call.run? sink values scope).isSome = (call.run? other others scope).isSome := by
  cases call with
  | text v s name =>
      by_cases hbound : (scope.binds v .values && scope.binds s .sink) = true
      · simp [run?, hbound]
      · simp [run?, hbound]
  | number v name =>
      by_cases hbound : scope.binds v .values = true
      · simp [run?, hbound]
      · simp [run?, hbound]

theorem Flat.isSome_run? (flat : Flat) (scope : Scope) :
    (flat.run? sink values scope).isSome = (flat.run? other others scope).isSome := by
  have hholes : ∀ holes, (runHoles? sink values scope holes).isSome
      = (runHoles? other others scope holes).isSome := by
    intro holes
    induction holes with
    | nil => rfl
    | cons hole rest ih =>
        obtain ⟨call, after⟩ := hole
        have hcall := call.isSome_run? sink other values others scope
        simp only [runHoles?, Option.bind_eq_bind, Option.pure_def, isSome_bind_bind, hcall, ih]
  simp only [run?, bind_pure_comp, Option.map_eq_map, Option.isSome_map, hholes]

namespace Code

theorem isSome_runArms? {arms : List (String × ArmCode Code)}
    (ih : ∀ key parameter body, (key, .lazy parameter body) ∈ arms → ∀ scope : Scope,
      (body.run? sink values scope).isSome = (body.run? other others scope).isSome)
    (scope : Scope) :
    (runArms? sink values arms scope).isSome = (runArms? other others arms scope).isSome := by
  induction arms with
  | nil => rfl
  | cons arm rest ihRest =>
      have hrest := ihRest fun key parameter body hmem =>
        ih key parameter body (List.mem_cons_of_mem _ hmem)
      obtain ⟨key, text | ⟨parameter, body⟩⟩ := arm
      · simp only [runArms?, bind_pure_comp, Option.map_eq_map, Option.isSome_map, hrest]
      · have hbody := ih key parameter body List.mem_cons_self
        simp only [runArms?, Option.bind_eq_bind, Option.pure_def, isSome_bind_bind, hbody, hrest]

theorem isSome_runStatements? {statements : List (Statement Code)}
    (ih : ∀ target code, .pushCode target code ∈ statements → ∀ scope : Scope,
      (code.run? sink values scope).isSome = (code.run? other others scope).isSome)
    (buffer : String) (scope : Scope) :
    (runStatements? sink values statements buffer scope).isSome
      = (runStatements? other others statements buffer scope).isSome := by
  induction statements with
  | nil => rfl
  | cons statement rest ihRest =>
      have hrest := ihRest fun target code hmem =>
        ih target code (List.mem_cons_of_mem _ hmem)
      cases statement with
      | pushText target text =>
          by_cases htarget : target = buffer
          · simp only [runStatements?, if_pos htarget, bind_pure_comp, Option.map_eq_map,
              Option.isSome_map, hrest]
          · simp [runStatements?, htarget]
      | pushCode target code =>
          by_cases htarget : target = buffer
          · have hcode := ih target code List.mem_cons_self
            simp only [runStatements?, if_pos htarget, Option.bind_eq_bind, Option.pure_def,
              isSome_bind_bind, hcode, hrest]
          · simp [runStatements?, htarget]

/-- **Whether code runs is told from its scope**, and neither the sink nor the values count. -/
theorem isSome_run? (code : Code) : ∀ scope : Scope,
    (code.run? sink values scope).isSome = (code.run? other others scope).isSome := by
  induction code using codeInduction with
  | flat pieces => exact pieces.isSome_run? sink other values others
  | resolve kind v s name arms ih =>
      intro scope
      by_cases hbound : (scope.binds v .values && scope.binds s .sink) = true
      · simp only [run?, if_pos hbound, bind_pure_comp, Option.map_eq_map, Option.isSome_map,
          isSome_runArms? sink other values others ih scope]
      · simp [run?, hbound]
  | block buffer statements result ih =>
      intro scope
      by_cases hresult : result = buffer
      · rw [run?, run?, if_pos hresult, if_pos hresult]
        exact isSome_runStatements? sink other values others ih buffer _
      · simp [run?, hresult]

end Code

end

/-! ### Requests -/

/-- A compiled message says something, also if its body does not run. -/
theorem CompiledFunction.speaks_call (function : CompiledFunction) (values : Values) :
    Speaks fun _ sink => function.call sink values := by
  let scope := Scope.ofParameters function.values function.sink
  -- Nothing depends on the sink with which it is found out whether the body runs.
  have hruns : ∀ {σ : Type} (sink : Sink σ), (function.body.run? sink values scope).isSome
      = (function.body.run? (Sink.discard : Sink Unit) values scope).isSome :=
    fun sink => function.body.isSome_run? sink Sink.discard values values scope
  cases hsome : (function.body.run? (Sink.discard : Sink Unit) values scope).isSome with
  | true =>
      refine ⟨CodePlace.textOf values (function.body.steps values),
        CodePlace.reportsOf values (function.body.steps values), ?_⟩
      intro σ sink
      obtain ⟨run, hrun⟩ := Option.isSome_iff_exists.mp ((hruns sink).trans hsome)
      have hcall : function.call sink values = run := by
        rw [call, hrun, Option.getD_some]
      change SaysTo sink (function.call sink values) _ _
      rw [hcall]
      exact function.body.saysTo_walk [] scope run hrun
  | false =>
      refine ⟨"", [], ?_⟩
      intro σ sink
      have hnone : function.body.run? sink values scope = none := by
        simpa [hsome] using hruns sink
      have hcall : function.call sink values = pure "" := by
        rw [call, hnone, Option.getD_none]
      change SaysTo sink (function.call sink values) _ _
      rw [hcall]
      exact SaysTo.pure ""

/-- A message says something. -/
theorem Entry.speaks_render (entry : Entry) (values : Values) :
    Speaks fun _ sink => entry.render sink values := by
  cases entry with
  | text t => exact ⟨t, [], fun _ _ => SaysTo.pure t⟩
  | compiled function => exact function.speaks_call values
  | template node => exact ⟨_, _, fun _ sink => node.says_visits sink [] none⟩

/-- A translation says something. -/
theorem Translator.speaks_translate (translator : Translator) (values : Values) (key : String) :
    Speaks fun _ sink => translator.translate sink values key := by
  unfold translate
  cases translator.lookup? key with
  | some entry => exact entry.speaks_render values
  | none =>
      exact ⟨_, _, fun _ _ =>
        (SaysTo.pure (translator.marker key)).warnIfAny (some (translator.missing key))⟩

/-- What is asked for: a template that is parsed or not, a message that is at hand, or the
message that a translator finds for a key. -/
inductive Request where
  | render (node : Node) (values : Values)
  | interpret (template : String) (values : Values)
  | renderEntry (entry : Entry) (values : Values)
  | translate (translator : Translator) (key : String) (values : Values)

namespace Request

/-- Carries a request out. -/
def answer {σ : Type} (sink : Sink σ) : Request → StateM σ String
  | render node values => node.render sink values
  | interpret template values => MessageTemplate.interpret sink values template
  | renderEntry entry values => entry.render sink values
  | translate translator key values => translator.translate sink values key

/-- The text of a request, when nobody listens to diagnostics. -/
def text (request : Request) : String :=
  ((request.answer (Sink.discard : Sink Unit)).run ()).1

/-- The diagnostics of a request, when all of them are kept. -/
def reports (request : Request) : List Diagnostic :=
  ((request.answer Sink.keepAll).run []).2

theorem speaks (request : Request) : Speaks fun _ sink => request.answer sink := by
  cases request with
  | render node values => exact ⟨_, _, fun _ sink => node.says_visits sink [] none⟩
  | interpret template values => exact speaks_interpret values template
  | renderEntry entry values => exact entry.speaks_render values
  | translate translator key values => exact translator.speaks_translate values key

/-- **A request says its text and its diagnostics**, to every sink. -/
theorem says_answer (request : Request) :
    Says (fun _ sink => request.answer sink) request.text request.reports := by
  obtain ⟨text, diagnostics, hsays⟩ := request.speaks
  have htext : request.text = text := by rw [Request.text, hsays]
  have hreports : request.reports = diagnostics := by
    rw [reports, hsays, Sink.reportAll_keepAll, List.nil_append]
  rw [htext, hreports]
  exact hsays

end Request

/-- Carries requests out one after another, each with a sink of its own. -/
def answerAll {σ : Type} (asked : List (Request × Sink σ)) : StateM σ (List String) :=
  asked.mapM fun ask => ask.1.answer ask.2

theorem answerAll_run {σ : Type} (asked : List (Request × Sink σ)) (state : σ) :
    (answerAll asked).run state
      = (asked.map fun ask => ask.1.text,
        asked.foldl (fun state ask => ask.2.reportAll ask.1.reports state) state) := by
  induction asked generalizing state with
  | nil => rfl
  | cons ask rest ih =>
      obtain ⟨request, sink⟩ := ask
      rw [answerAll, List.mapM_cons, StateT.run_bind, request.says_answer]
      change (answerAll rest >>= fun texts => pure (request.text :: texts)).run
        (sink.reportAll request.reports state) = _
      rw [StateT.run_bind, ih]
      rfl

/-- One sink for all requests is told of their diagnostics, in order. -/
theorem answerAll_run_sink {σ : Type} (requests : List Request) (sink : Sink σ) (state : σ) :
    ((answerAll (requests.map (·, sink))).run state).2
      = sink.reportAll (requests.flatMap Request.reports) state := by
  rw [answerAll_run, Sink.reportAll, List.foldl_flatMap, List.foldl_map]
  rfl

/-! ### Collectors -/

/-- **The firsts of a list**: each member once, in the order in which they come first. -/
structure AreFirsts (collected reported : List Diagnostic) : Prop where
  once : collected.Nodup
  same : ∀ diagnostic, diagnostic ∈ collected ↔ diagnostic ∈ reported
  ordered : collected.Pairwise fun a b => reported.idxOf a < reported.idxOf b

theorem AreFirsts.nil : AreFirsts [] [] :=
  ⟨List.nodup_nil, fun _ => Iff.rfl, List.Pairwise.nil⟩

/-- **A collector that has kept the firsts keeps them** with one more report. -/
theorem AreFirsts.report {collected reported : List Diagnostic}
    (h : AreFirsts collected reported) (diagnostic : Diagnostic) :
    AreFirsts (Sink.collector.report diagnostic collected) (reported ++ [diagnostic]) := by
  -- Where something came first does not change by what is reported later.
  have hindex : ∀ other ∈ collected,
      (reported ++ [diagnostic]).idxOf other = reported.idxOf other := fun other hother =>
    List.idxOf_append_of_mem ((h.same other).mp hother)
  have hordered : collected.Pairwise fun a b =>
      (reported ++ [diagnostic]).idxOf a < (reported ++ [diagnostic]).idxOf b := by
    refine h.ordered.imp_of_mem fun ha hb hlt => ?_
    rw [hindex _ ha, hindex _ hb]
    exact hlt
  by_cases hmem : diagnostic ∈ collected
  · have hkept : Sink.collector.report diagnostic collected = collected := by
      simp [Sink.collector, hmem]
    rw [hkept]
    refine ⟨h.once, fun other => ?_, hordered⟩
    rw [h.same, List.mem_append, List.mem_singleton, or_iff_left_of_imp]
    rintro rfl
    exact (h.same _).mp hmem
  · have hkept : Sink.collector.report diagnostic collected = collected ++ [diagnostic] := by
      simp [Sink.collector, hmem]
    have hnew : diagnostic ∉ reported := fun hreported => hmem ((h.same _).mpr hreported)
    rw [hkept]
    refine ⟨?_, fun other => ?_, ?_⟩
    · rw [← List.concat_eq_append]
      exact h.once.concat hmem
    · rw [List.mem_append, List.mem_append, h.same]
    · refine List.pairwise_append.mpr ⟨hordered, List.pairwise_singleton _ _, ?_⟩
      intro other hother new hnewest
      obtain rfl := List.mem_singleton.mp hnewest
      rw [hindex other hother, List.idxOf_append_of_notMem hnew]
      have hlt := List.idxOf_lt_length_of_mem ((h.same other).mp hother)
      omega

/-- A collector keeps the firsts of all that is reported to it. -/
theorem areFirsts_reportAll (diagnostics : List Diagnostic) :
    AreFirsts (Sink.collector.reportAll diagnostics []) diagnostics := by
  induction diagnostics using List.reverseRecOn with
  | nil => exact AreFirsts.nil
  | append_singleton earlier diagnostic ih =>
      rw [Sink.reportAll_append]
      exact ih.report diagnostic

/--
**Sinks do not matter, and a collector loses nothing.**

Requests have the same texts whatever sinks they report to, and a collector keeps, of all that is
reported in the course of them, each diagnostic where it came first.
-/
theorem answerAll_ignoresSinks :
    (∀ {σ : Type} (asked : List (Request × Sink σ)) (state : σ),
        ((answerAll asked).run state).1 = asked.map fun ask => ask.1.text) ∧
      ∀ requests : List Request,
        AreFirsts ((answerAll (requests.map (·, Sink.collector))).run []).2
          ((answerAll (requests.map (·, Sink.keepAll))).run []).2 := by
  constructor
  · intro σ asked state
    rw [answerAll_run]
  · intro requests
    rw [answerAll_run_sink, answerAll_run_sink, Sink.reportAll_keepAll, List.nil_append]
    exact areFirsts_reportAll _

/-- A template that is asked for twice, and one that shares a name with it. -/
example :
    let requests : List Request := [.interpret "\x7bb\x7d" ∅, .interpret "\x7bc\x7d\x7ba\x7d" ∅,
      .interpret "\x7bb\x7d" ∅]
    (answerAll (requests.map (·, Sink.collector))).run []
      = (["\x7bb\x7d", "\x7bc\x7d\x7ba\x7d", "\x7bb\x7d"],
        [.missingValue "b", .missingValue "c", .missingValue "a"]) := rfl

end MessageTemplate
