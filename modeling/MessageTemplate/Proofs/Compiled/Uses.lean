/-
The identifiers at the places of code.

An identifier of code is used at a place, or it is the parameter of a lazy arm or the buffer of a
block (`Code.mem_identifiers`).  In compiled code each place has what it needs of the three names
it was compiled with (`CodePlace.IsProper`), and the arms and blocks around it bind nothing but
the sink and the buffer.  So code brings no identifiers of its own.
-/
import MessageTemplate.Proofs.Compiled.Places

namespace MessageTemplate

/-! ### Uses -/

/-- The identifier that a layer binds. -/
def Layer.binder? : Layer → Option String
  | arm _ _ parameter => parameter
  | block buffer => some buffer

namespace CodePlace

/-- The identifiers that code uses at a place. -/
def uses (place : CodePlace) : List String :=
  match place.action with
  | .text _ => []
  | .call call => call.identifiers
  | .resolve _ values sink => [values, sink]
  | .lazy _ _ => []
  | .append buffer => [buffer]
  | .giveBack buffer => [buffer]

/-- An identifier that stands at a place or is bound there. -/
inductive Mentions (place : CodePlace) : String → Prop
  | used {identifier : String} (use : identifier ∈ place.uses) : Mentions place identifier
  | parameter {identifier : String} {body : Code}
      (action : place.action = .lazy (some identifier) body) : Mentions place identifier
  | declared {identifier result : String} {outer : List Layer}
      (action : place.action = .giveBack result)
      (around : place.around = .block identifier :: outer) : Mentions place identifier

end CodePlace

namespace Code

theorem mem_armIdentifiers {arms : List (String × ArmCode Code)} {identifier : String}
    (h : identifier ∈ armIdentifiers arms) :
    ∃ key parameter body, (key, .lazy parameter body) ∈ arms ∧
      (parameter = some identifier ∨ identifier ∈ body.identifiers) := by
  induction arms with
  | nil => simp [armIdentifiers] at h
  | cons arm rest ih =>
      have hrest : identifier ∈ armIdentifiers rest → ∃ key parameter body,
          (key, .lazy parameter body) ∈ arm :: rest ∧
            (parameter = some identifier ∨ identifier ∈ body.identifiers) := by
        intro hmem
        obtain ⟨key, parameter, body, harm, hbody⟩ := ih hmem
        exact ⟨key, parameter, body, List.mem_cons_of_mem _ harm, hbody⟩
      obtain ⟨key, text | ⟨parameter, body⟩⟩ := arm
      · exact hrest (by simpa [armIdentifiers] using h)
      · simp only [armIdentifiers, List.mem_append, Option.mem_toList] at h
        rcases h with hbody | hmem
        · exact ⟨key, parameter, body, List.mem_cons_self, hbody⟩
        · exact hrest hmem

/-- The identifiers of statements are buffers that they append to, or stand in their code. -/
theorem mem_statementIdentifiers {statements : List (Statement Code)} {identifier : String}
    (around : List Layer) (h : identifier ∈ statementIdentifiers statements) :
    ⟨.append identifier, around⟩ ∈ statementWalk .all statements around ∨
      ∃ target code, .pushCode target code ∈ statements ∧ identifier ∈ code.identifiers := by
  induction statements with
  | nil => simp [statementIdentifiers] at h
  | cons statement rest ih =>
      cases statement with
      | pushText target text =>
          rw [statementIdentifiers, List.mem_cons] at h
          rw [statementWalk]
          rcases h with rfl | hmem
          · exact Or.inl List.mem_cons_self
          · rcases ih hmem with hplace | ⟨other, code, hstatement, hcode⟩
            · exact Or.inl (by simp [hplace])
            · exact Or.inr ⟨other, code, List.mem_cons_of_mem _ hstatement, hcode⟩
      | pushCode target code =>
          rw [statementIdentifiers, List.cons_append, List.mem_cons, List.mem_append] at h
          rw [statementWalk]
          rcases h with rfl | hcode | hmem
          · exact Or.inl List.mem_cons_self
          · exact Or.inr ⟨target, code, List.mem_cons_self, hcode⟩
          · rcases ih hmem with hplace | ⟨other, code, hstatement, hcode⟩
            · exact Or.inl (by simp [hplace])
            · exact Or.inr ⟨other, code, List.mem_cons_of_mem _ hstatement, hcode⟩

/-- **The places of code have all its identifiers.** -/
theorem mem_identifiers (code : Code) : ∀ (around : List Layer) (identifier : String),
    identifier ∈ code.identifiers →
      ∃ place ∈ code.walk .all around, place.Mentions identifier := by
  induction code using codeInduction with
  | flat pieces =>
      intro around identifier h
      obtain ⟨hole, hhole, huse⟩ := List.mem_flatMap.mp h
      refine ⟨⟨.call hole.1, around⟩, ?_, .used huse⟩
      exact List.mem_cons_of_mem _ (List.mem_flatMap_of_mem hhole (by simp))
  | resolve kind values sink name arms ih =>
      intro around identifier h
      rw [walk_resolve]
      rw [identifiers, List.mem_cons, List.mem_cons] at h
      rcases h with rfl | rfl | harms
      · exact ⟨_, List.mem_cons_self, .used (by simp [CodePlace.uses])⟩
      · exact ⟨_, List.mem_cons_self, .used (by simp [CodePlace.uses])⟩
      · obtain ⟨key, parameter, body, harm, hbody⟩ := mem_armIdentifiers harms
        have hwalk : ∀ place ∈ armWalk .all kind name around (.lazy parameter body),
            place ∈ (Picking.all.pick { name, kind, options := arms : Branch _ }).flatMap
              (armWalk .all kind name around) :=
          fun place hplace => List.mem_flatMap_of_mem (List.mem_map_of_mem harm) hplace
        rcases hbody with rfl | hbody
        · exact ⟨_, List.mem_cons_of_mem _ (hwalk _ List.mem_cons_self), .parameter rfl⟩
        · obtain ⟨place, hplace, hmentions⟩ :=
            ih key parameter body harm (.arm kind name parameter :: around) identifier hbody
          exact ⟨place, List.mem_cons_of_mem _ (hwalk _ (List.mem_cons_of_mem _ hplace)),
            hmentions⟩
  | block buffer statements result ih =>
      intro around identifier h
      rw [identifiers, List.mem_cons, List.mem_cons] at h
      rw [walk]
      rcases h with rfl | rfl | hstatements
      · exact ⟨_, List.mem_append_right _ List.mem_cons_self, .declared rfl rfl⟩
      · exact ⟨_, List.mem_append_right _ List.mem_cons_self, .used (by simp [CodePlace.uses])⟩
      · rcases mem_statementIdentifiers (.block buffer :: around) hstatements with
          hplace | ⟨target, code, hstatement, hcode⟩
        · exact ⟨_, List.mem_append_left _ hplace, .used (by simp [CodePlace.uses])⟩
        · obtain ⟨place, hplace, hmentions⟩ :=
            ih target code hstatement (.block buffer :: around) identifier hcode
          exact ⟨place, List.mem_append_left _ (mem_statementWalk hstatement place hplace),
            hmentions⟩

end Code

/-! ### Compiled code binds the sink and the buffer -/

/-- A layer that binds the sink or nothing as a lazy arm, and the buffer as a block. -/
def Layer.IsFor (names : CodeNames) : Layer → Prop
  | arm _ _ parameter => ∀ name ∈ parameter, name = names.sink
  | block buffer => buffer = names.buffer

/-- One of the three names, where compiled code uses it: the buffer only right inside a block that
declares it. -/
inductive IsPlaced (names : CodeNames) (around : List Layer) : String → Prop where
  | values : (∀ layer ∈ around, layer.IsFor names) → IsPlaced names around names.values
  | sink : (∀ layer ∈ around, layer.IsFor names) → IsPlaced names around names.sink
  | buffer (outer : List Layer) : around = .block names.buffer :: outer →
      IsPlaced names around names.buffer

/-- A place as compiled code has them: its identifiers are placed, a lazy arm has the code of its
content, and a buffer is given back in the block that declares it. -/
structure CodePlace.IsProper (names : CodeNames) (place : CodePlace) : Prop where
  uses : ∀ identifier ∈ place.uses, IsPlaced names place.around identifier
  lazy : ∀ parameter body, place.action = .lazy parameter body →
    ∃ content number, parameter = Code.armParameter names content ∧
      body = Code.ofNode names content number
  declared : ∀ buffer, place.action = .giveBack buffer →
    ∃ outer, place.around = .block names.buffer :: outer

namespace Code

variable {names : CodeNames}

theorem eq_sink_of_mem_armParameter {content : Node} :
    ∀ name ∈ armParameter names content, name = names.sink := by
  unfold armParameter
  by_cases h : content.valueNames.isEmpty = true
  · simp [h]
  · simp [h]

/-- **Every place of compiled code is proper.** -/
theorem isProper_of_mem_walk (node : Node) (number : Option String) (around : List Layer)
    (layers : ∀ layer ∈ around, layer.IsFor names) :
    ∀ place ∈ (ofNode names node number).walk .all around, place.IsProper names := by
  have compiles : Compiles names .all
      (fun _ _ around => ∀ layer ∈ around, layer.IsFor names) (·.IsProper names) :=
    { part := fun layers _ _ => layers
      block := fun layers => List.forall_mem_cons.mpr ⟨rfl, layers⟩
      content := fun layers _ _ =>
        List.forall_mem_cons.mpr ⟨eq_sink_of_mem_armParameter, layers⟩
      text := ⟨by simp [CodePlace.uses], by simp, by simp⟩
      placeholder := fun layers =>
        ⟨by simp [CodePlace.uses, Call.identifiers, IsPlaced.values layers,
          IsPlaced.sink layers], by simp, by simp⟩
      numberField := fun layers =>
        ⟨by simp [CodePlace.uses, Call.identifiers, IsPlaced.values layers], by simp, by simp⟩
      branch := fun layers =>
        ⟨by simp [CodePlace.uses, IsPlaced.values layers, IsPlaced.sink layers], by simp,
          by simp⟩
      lazy := by
        intro choice number around _ content _
        refine ⟨by simp [CodePlace.uses], fun parameter body haction => ?_, by simp⟩
        injection haction with hparameter hbody
        exact ⟨content, _, hparameter.symm, hbody.symm⟩
      append := ⟨by simp [CodePlace.uses, IsPlaced.buffer _ rfl], by simp, by simp⟩
      giveBack := ⟨by simp [CodePlace.uses, IsPlaced.buffer _ rfl], by simp, by simp⟩ }
  exact compiles.forall_walk node number around layers

theorem isProper_of_mem_places (node : Node) (number : Option String) :
    ∀ place ∈ (ofNode names node number).places, place.IsProper names :=
  isProper_of_mem_walk node number [] (by simp)

/-- **Compiled code uses no identifiers but its names.** -/
theorem ofNode_identifiers (names : CodeNames) (node : Node) (number : Option String) :
    ∀ name ∈ (ofNode names node number).identifiers, name ∈ names.all := by
  intro name hname
  obtain ⟨place, hplace, hmentions⟩ := mem_identifiers _ [] name hname
  have hproper := isProper_of_mem_places node number place hplace
  cases hmentions with
  | used huse => cases hproper.uses name huse <;> simp [CodeNames.all]
  | parameter haction =>
      obtain ⟨content, inside, hparameter, -⟩ := hproper.lazy _ _ haction
      rw [eq_sink_of_mem_armParameter name hparameter.symm]
      simp [CodeNames.all]
  | declared haction haround =>
      obtain ⟨outer, hbuffer⟩ := hproper.declared _ haction
      rw [haround] at hbuffer
      injection hbuffer with hblock
      injection hblock with hname
      simp [hname, CodeNames.all]

end Code

end MessageTemplate
