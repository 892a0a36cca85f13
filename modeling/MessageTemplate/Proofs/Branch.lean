/-
Branches as insertion-ordered maps.

Writing an option under a key that is there changes the content and no key, and writing
one under a new key adds the key at the end (`keys_insertOption`).  So the keys of a
branch that was written to from nothing are distinct and in the order in which they came
first, and each has the content that came last (`Branch.shows_insertAll`).  Options with
distinct keys are kept just as they were written (`insertAll_of_nodup`).

Which option is chosen depends on the keys alone, so the contents may be changed before or
after the choice (`selectOption_map`).  If the keys are distinct, their order does not
matter to the choice either (`selectOption_perm`).
-/
import MessageTemplate.Branch
import Mathlib.Data.List.Basic
import Mathlib.Data.List.Induction

namespace MessageTemplate

variable {α : Type}

/-- The branch with options added one after the other. -/
def Branch.insertAll (branch : Branch α) (options : List (String × α)) : Branch α :=
  options.foldl (fun branch option => branch.insert option.1 option.2) branch

/-- The keys of options. -/
abbrev optionKeys (options : List (String × α)) : List String :=
  options.map (·.1)

/-! ### One option -/

theorem keys_insertOption (key : String) (content : α) (options : List (String × α)) :
    optionKeys (insertOption key content options)
      = if key ∈ optionKeys options then optionKeys options else optionKeys options ++ [key] := by
  induction options with
  | nil => rfl
  | cons option rest ih =>
      obtain ⟨k, c⟩ := option
      unfold insertOption
      by_cases hk : k = key
      · simp [hk]
      · rw [if_neg hk]
        change k :: optionKeys (insertOption key content rest) = _
        rw [ih]
        by_cases hmem : key ∈ optionKeys rest
        · simp [hmem]
        · have hne : key ≠ k := fun h => hk h.symm
          rw [if_neg hmem, if_neg (by simpa [hne] using hmem)]
          rfl

theorem insertOption_of_not_mem {key : String} (content : α) {options : List (String × α)}
    (h : key ∉ optionKeys options) :
    insertOption key content options = options ++ [(key, content)] := by
  induction options with
  | nil => rfl
  | cons option rest ih =>
      obtain ⟨k, c⟩ := option
      have hk : k ≠ key := fun hk => h (by simp [hk])
      have hrest : key ∉ optionKeys rest := fun hrest => h (List.mem_cons_of_mem k hrest)
      rw [insertOption, if_neg hk, ih hrest, List.cons_append]

/-- What is in a branch after an insertion is what was there, or the new option. -/
theorem mem_insertOption {key : String} {content : α} {options : List (String × α)}
    {option : String × α} (h : option ∈ insertOption key content options) :
    option = (key, content) ∨ option ∈ options := by
  induction options with
  | nil => exact Or.inl (by simpa [insertOption] using h)
  | cons first rest ih =>
      obtain ⟨k, c⟩ := first
      unfold insertOption at h
      by_cases hk : k = key
      · rw [if_pos hk] at h
        rcases List.mem_cons.mp h with hnew | hold
        · exact Or.inl (by rw [hnew, hk])
        · exact Or.inr (List.mem_cons_of_mem _ hold)
      · rw [if_neg hk] at h
        rcases List.mem_cons.mp h with hfirst | hrest
        · exact Or.inr (by simp [hfirst])
        · rcases ih hrest with hnew | hold
          · exact Or.inl hnew
          · exact Or.inr (List.mem_cons_of_mem _ hold)

theorem insertOption_ne_nil (key : String) (content : α) (options : List (String × α)) :
    insertOption key content options ≠ [] := by
  cases options with
  | nil => simp [insertOption]
  | cons option rest =>
      obtain ⟨k, c⟩ := option
      unfold insertOption
      split <;> simp

theorem lookup_cons_pair (key : String) (content : α) (rest : List (String × α))
    (other : String) :
    ((key, content) :: rest).lookup other
      = if other = key then some content else rest.lookup other := by
  rw [List.lookup_cons]
  by_cases h : other = key
  · simp [h]
  · have hne : (other == key) = false := by simpa using h
    rw [hne, if_neg h]

theorem lookup_insertOption (key : String) (content : α) (options : List (String × α))
    (other : String) :
    (insertOption key content options).lookup other
      = if other = key then some content else options.lookup other := by
  induction options with
  | nil => exact lookup_cons_pair key content [] other
  | cons option rest ih =>
      obtain ⟨k, c⟩ := option
      unfold insertOption
      by_cases hk : k = key
      · subst hk
        rw [if_pos rfl, lookup_cons_pair, lookup_cons_pair]
        split <;> rfl
      · rw [if_neg hk, lookup_cons_pair, lookup_cons_pair, ih]
        by_cases hother : other = k
        · have hne : other ≠ key := fun heq => hk (hother.symm.trans heq)
          rw [if_pos hother, if_neg hne, if_pos hother]
        · rw [if_neg hother, if_neg hother]

/-! ### Options one after the other -/

theorem insertAll_snoc (branch : Branch α) (options : List (String × α)) (key : String)
    (content : α) :
    branch.insertAll (options ++ [(key, content)])
      = (branch.insertAll options).insert key content := by
  simp [Branch.insertAll, List.foldl_append]

@[simp] theorem insertAll_kind (branch : Branch α) (options : List (String × α)) :
    (branch.insertAll options).kind = branch.kind := by
  induction options generalizing branch with
  | nil => rfl
  | cons option options ih => exact ih (branch.insert option.1 option.2)

@[simp] theorem insertAll_name (branch : Branch α) (options : List (String × α)) :
    (branch.insertAll options).name = branch.name := by
  induction options generalizing branch with
  | nil => rfl
  | cons option options ih => exact ih (branch.insert option.1 option.2)

/-- A branch with options added has an option. -/
theorem insertAll_ne_nil (branch : Branch α) {options : List (String × α)}
    (h : options ≠ []) : (branch.insertAll options).options ≠ [] := by
  induction options using List.reverseRecOn with
  | nil => exact absurd rfl h
  | append_singleton options option _ =>
      rw [insertAll_snoc]
      exact insertOption_ne_nil option.1 option.2 _

/-- Adding options keeps keys distinct. -/
theorem insertAll_nodup {branch : Branch α} (h : branch.keys.Nodup)
    (options : List (String × α)) : (branch.insertAll options).keys.Nodup := by
  induction options generalizing branch with
  | nil => exact h
  | cons option options ih =>
      apply ih
      change (optionKeys (insertOption option.1 option.2 branch.options)).Nodup
      rw [keys_insertOption]
      split
      · exact h
      · rename_i hnew
        exact List.nodup_append.mpr ⟨h, by simp, by
          intro a ha b hb hab
          obtain rfl := List.mem_singleton.mp hb
          exact hnew (hab ▸ ha)⟩

/-- What is in a branch after adding options is what was there, or one of them. -/
theorem mem_insertAll {branch : Branch α} {options : List (String × α)} {option : String × α}
    (h : option ∈ (branch.insertAll options).options) :
    option ∈ options ∨ option ∈ branch.options := by
  induction options generalizing branch with
  | nil => exact Or.inr h
  | cons first rest ih =>
      rcases ih h with hrest | hbranch
      · exact Or.inl (List.mem_cons_of_mem _ hrest)
      · rcases mem_insertOption hbranch with hfirst | hold
        · exact Or.inl (by simp [hfirst])
        · exact Or.inr hold

/-- Options with distinct keys that are new are kept as they were written. -/
theorem insertAll_of_nodup (branch : Branch α) {options : List (String × α)}
    (h : (optionKeys (branch.options ++ options)).Nodup) :
    branch.insertAll options = { branch with options := branch.options ++ options } := by
  induction options generalizing branch with
  | nil => simp [Branch.insertAll]
  | cons option rest ih =>
      have hnew : option.1 ∉ optionKeys branch.options := by
        intro hmem
        rw [optionKeys, List.map_append, List.nodup_append] at h
        exact h.2.2 _ hmem option.1 (by simp) rfl
      have hinsert : (branch.insert option.1 option.2).options = branch.options ++ [option] :=
        insertOption_of_not_mem option.2 hnew
      have hrest := ih (branch.insert option.1 option.2) (by
        rw [hinsert, List.append_assoc]
        exact h)
      rw [hinsert, List.append_assoc] at hrest
      exact hrest

/-! ### What a branch shows of the options that were written -/

theorem Branch.keys_insert (branch : Branch α) (key : String) (content : α) :
    (branch.insert key content).keys
      = if key ∈ branch.keys then branch.keys else branch.keys ++ [key] :=
  keys_insertOption key content branch.options

theorem optionKeys_snoc (options : List (String × α)) (key : String) (content : α) :
    optionKeys (options ++ [(key, content)]) = optionKeys options ++ [key] := by
  simp [optionKeys]

/-- **A branch that shows options as an insertion-ordered map does**, if they were written in
this order. -/
structure Branch.Shows (branch : Branch α) (written : List (String × α)) : Prop where
  /-- No key is there twice. -/
  nodup : branch.keys.Nodup
  /-- Each key that was written is there, and no other. -/
  mem_keys : ∀ key, key ∈ branch.keys ↔ key ∈ optionKeys written
  /-- The keys are in the order in which they were written first. -/
  ordered : branch.keys.Pairwise fun key other =>
    (optionKeys written).idxOf key < (optionKeys written).idxOf other
  /-- A key has the content that was written last for it. -/
  option? : ∀ key, branch.option? key = written.reverse.lookup key
  /-- The choice for a key is its content, or else that of `other`. -/
  select : ∀ key,
    branch.select key = (written.reverse.lookup key <|> written.reverse.lookup otherKey)

namespace Branch.Shows

theorem empty (name : String) (kind : BranchKind) : (Branch.empty name kind : Branch α).Shows [] where
  nodup := List.nodup_nil
  mem_keys := fun _ => Iff.rfl
  ordered := List.Pairwise.nil
  option? := fun _ => rfl
  select := fun _ => rfl

variable {branch : Branch α} {written : List (String × α)}

theorem option?_insert (h : branch.Shows written) (key : String) (content : α) (other : String) :
    (branch.insert key content).option? other
      = (written ++ [(key, content)]).reverse.lookup other := by
  rw [List.reverse_append, List.reverse_singleton, List.singleton_append, lookup_cons_pair,
    ← h.option? other]
  exact lookup_insertOption key content branch.options other

theorem mem_keys_insert (h : branch.Shows written) (key : String) (content : α) (other : String) :
    other ∈ (branch.insert key content).keys ↔ other ∈ optionKeys written ++ [key] := by
  rw [Branch.keys_insert, List.mem_append, ← h.mem_keys other]
  by_cases hmem : key ∈ branch.keys
  · rw [if_pos hmem, List.mem_singleton]
    constructor
    · exact Or.inl
    · rintro (hold | rfl)
      · exact hold
      · exact hmem
  · rw [if_neg hmem, List.mem_append]

/-- Where a key was written first is not changed by what is written later, so a new key comes
last. -/
theorem ordered_insert (h : branch.Shows written) (key : String) (content : α) :
    (branch.insert key content).keys.Pairwise fun one other =>
      (optionKeys written ++ [key]).idxOf one < (optionKeys written ++ [key]).idxOf other := by
  have hfirst : ∀ other ∈ branch.keys,
      (optionKeys written ++ [key]).idxOf other = (optionKeys written).idxOf other :=
    fun other hother => List.idxOf_append_of_mem ((h.mem_keys other).mp hother)
  have hordered : branch.keys.Pairwise fun one other =>
      (optionKeys written ++ [key]).idxOf one < (optionKeys written ++ [key]).idxOf other := by
    refine h.ordered.imp_of_mem fun hone hother hlt => ?_
    rwa [hfirst _ hone, hfirst _ hother]
  rw [Branch.keys_insert]
  by_cases hmem : key ∈ branch.keys
  · rw [if_pos hmem]
    exact hordered
  · rw [if_neg hmem, List.pairwise_append]
    refine ⟨hordered, List.pairwise_singleton _ _, fun other hother last hlast => ?_⟩
    obtain rfl := List.mem_singleton.mp hlast
    have hnew : last ∉ optionKeys written := fun hlast => hmem ((h.mem_keys last).mpr hlast)
    have hlt := List.idxOf_lt_length_of_mem ((h.mem_keys other).mp hother)
    rw [hfirst other hother, List.idxOf_append_of_notMem hnew]
    omega

/-- **An insertion is one more option that was written.** -/
theorem insert (h : branch.Shows written) (key : String) (content : α) :
    (branch.insert key content).Shows (written ++ [(key, content)]) where
  nodup := insertAll_nodup h.nodup [(key, content)]
  mem_keys := by
    rw [optionKeys_snoc]
    exact h.mem_keys_insert key content
  ordered := by
    rw [optionKeys_snoc]
    exact h.ordered_insert key content
  option? := h.option?_insert key content
  select := by
    intro other
    rw [← h.option?_insert, ← h.option?_insert]
    rfl

end Branch.Shows

/-- **A branch that was written to from nothing shows all that was written.** -/
theorem Branch.shows_insertAll (name : String) (kind : BranchKind) (written : List (String × α)) :
    ((Branch.empty name kind).insertAll written).Shows written := by
  induction written using List.reverseRecOn with
  | nil => exact Shows.empty name kind
  | append_singleton written option ih =>
      rw [insertAll_snoc]
      exact ih.insert option.1 option.2

/-! ### The rule of choice looks at keys only -/

theorem lookup_map_snd {β : Type} (f : α → β) (key : String) :
    ∀ options : List (String × α),
      (options.map fun option => (option.1, f option.2)).lookup key
        = (options.lookup key).map f := by
  intro options
  induction options with
  | nil => rfl
  | cons option rest ih =>
      obtain ⟨k, content⟩ := option
      simp only [List.map_cons, List.lookup_cons, ih]
      cases key == k <;> rfl

theorem selectOption_map {β : Type} (f : α → β) (options : List (String × α))
    (key : String) :
    selectOption (options.map fun option => (option.1, f option.2)) key
      = (selectOption options key).map f := by
  unfold selectOption
  rw [lookup_map_snd, lookup_map_snd]
  cases options.lookup key <;> simp

/-- The order of options with distinct keys does not matter to the choice of one. -/
theorem lookup_perm {options others : List (String × α)} (perm : options.Perm others)
    (distinct : (optionKeys options).Nodup) (key : String) :
    options.lookup key = others.lookup key := by
  induction perm with
  | nil => rfl
  | cons option _ ih =>
      obtain ⟨k, content⟩ := option
      rw [lookup_cons_pair, lookup_cons_pair, ih (List.nodup_cons.mp distinct).2]
  | swap first second rest =>
      obtain ⟨k, content⟩ := first
      obtain ⟨k', content'⟩ := second
      have hne : k' ≠ k := fun heq => (List.nodup_cons.mp distinct).1 (by simp [heq])
      rw [lookup_cons_pair, lookup_cons_pair, lookup_cons_pair, lookup_cons_pair]
      by_cases hkey : key = k
      · have hother : key ≠ k' := fun heq => hne (heq.symm.trans hkey)
        rw [if_neg hother, if_pos hkey, if_pos hkey]
      · rw [if_neg hkey, if_neg hkey]
  | trans first _ ih ih' =>
      have hdistinct := (first.map (·.1)).nodup_iff.mp distinct
      rw [ih distinct, ih' hdistinct]

theorem selectOption_perm {options others : List (String × α)} (perm : options.Perm others)
    (distinct : (optionKeys options).Nodup) (key : String) :
    selectOption options key = selectOption others key := by
  rw [selectOption, selectOption, lookup_perm perm distinct, lookup_perm perm distinct]

/-- If keys are distinct, each option is found under its key. -/
theorem lookup_of_mem {options : List (String × α)} (distinct : (optionKeys options).Nodup)
    {key : String} {content : α} (h : (key, content) ∈ options) :
    options.lookup key = some content := by
  obtain ⟨before, after, rfl⟩ := List.append_of_mem h
  rw [lookup_perm List.perm_middle distinct, lookup_cons_pair, if_pos rfl]

/-- A content that is chosen is the content of an option. -/
theorem mem_of_lookup {key : String} {content : α} {options : List (String × α)}
    (h : options.lookup key = some content) : (key, content) ∈ options := by
  obtain ⟨before, after, rfl, -⟩ := List.lookup_eq_some_iff.mp h
  simp

theorem mem_of_selectOption {key : String} {content : α} {options : List (String × α)}
    (h : selectOption options key = some content) : ∃ option ∈ options, option.2 = content := by
  unfold selectOption at h
  cases hkey : options.lookup key with
  | some chosen =>
      obtain rfl : chosen = content := by simpa [hkey] using h
      exact ⟨_, mem_of_lookup hkey, rfl⟩
  | none =>
      rw [hkey] at h
      exact ⟨_, mem_of_lookup h, rfl⟩

end MessageTemplate
