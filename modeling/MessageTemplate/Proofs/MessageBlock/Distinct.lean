/-
Blocks in which no name is given twice.

The check for conflicts walks through a block with a list of the names that it has seen,
and it finds nothing exactly if every locale is there once and every key once in its
locale (`conflicts_eq_nil_iff`).  Then no message replaces another one in the catalog of
the block, and each is found under its own names (`catalog_get?`).
-/
import MessageTemplate.MessageBlock.Expansion
import MessageTemplate.Proofs.Catalog.Writes
import Mathlib.Data.List.Induction
import Mathlib.Data.List.Nodup

namespace MessageTemplate

open Source (isRaw)

/-! ### The check for conflicts -/

theorem repeatsAfter_eq_nil_iff (seen names : List String) :
    repeatsAfter seen names = [] ↔ names.Nodup ∧ ∀ name ∈ names, name ∉ seen := by
  induction names generalizing seen with
  | nil => simp [repeatsAfter]
  | cons name names ih =>
      rw [repeatsAfter]
      by_cases hseen : name ∈ seen
      · simp [hseen]
      · have hnext : (∀ other ∈ names, other ∉ name :: seen)
            ↔ name ∉ names ∧ ∀ other ∈ names, other ∉ seen := by
          simp only [List.mem_cons, not_or]
          constructor
          · intro h
            exact ⟨fun hmem => (h name hmem).1 rfl, fun other hother => (h other hother).2⟩
          · rintro ⟨hname, h⟩ other hother
            exact ⟨fun heq => hname (heq ▸ hother), h other hother⟩
        simp only [List.contains_eq_mem, hseen, decide_false, Bool.false_eq_true, if_false, ih,
          hnext, List.nodup_cons, List.forall_mem_cons, not_false_eq_true, true_and]
        tauto

/-- **Every locale is there once, and every key once in its locale.** -/
structure MessageBlock.Distinct (block : MessageBlock) : Prop where
  locales : (block.locales.map (·.locale)).Nodup
  keys : ∀ messages ∈ block.locales, messages.keys.Nodup

theorem conflictsAfter_eq_nil_iff (seen : List String) (blocks : List LocaleBlock) :
    conflictsAfter seen blocks = []
      ↔ repeatsAfter seen (blocks.map (·.locale)) = [] ∧ ∀ block ∈ blocks, block.keys.Nodup := by
  induction blocks generalizing seen with
  | nil => simp [conflictsAfter, repeatsAfter]
  | cons block blocks ih =>
      have hkeys : repeatsAfter [] block.keys = [] ↔ block.keys.Nodup := by
        simp [repeatsAfter_eq_nil_iff]
      rw [conflictsAfter, List.map_cons, repeatsAfter]
      by_cases hseen : block.locale ∈ seen
      · simp [hseen]
      · simp only [List.contains_eq_mem, hseen, decide_false, Bool.false_eq_true, if_false,
          List.nil_append, List.append_eq_nil_iff, List.map_eq_nil_iff, ih, hkeys,
          List.forall_mem_cons]
        tauto

namespace MessageBlock

variable {block : MessageBlock}

/-- **The check finds no conflict exactly if no name is given twice.** -/
theorem conflicts_eq_nil_iff : block.conflicts = [] ↔ block.Distinct := by
  rw [conflicts, conflictsAfter_eq_nil_iff, repeatsAfter_eq_nil_iff]
  constructor
  · rintro ⟨⟨hlocales, -⟩, hkeys⟩
    exact ⟨hlocales, hkeys⟩
  · rintro ⟨hlocales, hkeys⟩
    exact ⟨⟨hlocales, by simp⟩, hkeys⟩

/-- Source of a block without conflicts has code, if no name is raw. -/
theorem Distinct.compile (h : block.Distinct) (notRaw : ∀ name ∈ block.names, isRaw name = false)
    {source : String} (hsource : ofSource source = .ok block) :
    MessageBlock.compile source = .ok (block, block.lexemes) := by
  have hconflicts : block.conflicts = [] := conflicts_eq_nil_iff.mpr h
  have hraw : block.names.find? isRaw = none := by
    rw [List.find?_eq_none]
    intro name hname
    simp [notRaw name hname]
  simp only [MessageBlock.compile, hsource, hconflicts, List.isEmpty_nil, if_true, hraw]

/-! ### The catalog -/

/-- The write of an insertion. -/
def insertionWrite (insertion : String × String × Entry) : Write :=
  { locale := insertion.1, key := insertion.2.1, entry := insertion.2.2 }

/-- The writes that make the catalog of a block. -/
def writes (block : MessageBlock) : List Write :=
  block.insertions.map insertionWrite

theorem catalog_holds (block : MessageBlock) : block.catalog.Holds block.writes := by
  unfold catalog writes
  -- Insertion by insertion, the last one last.
  induction block.insertions using List.reverseRecOn with
  | nil => exact Catalog.Holds.empty
  | append_singleton insertions insertion ih =>
      rw [List.foldl_append, List.map_append]
      exact ih.insert (insertionWrite insertion)

theorem mem_writes {messages : LocaleBlock} {message : BlockMessage}
    (hmessages : messages ∈ block.locales) (hmessage : message ∈ messages.messages) :
    { locale := messages.locale, key := message.key, entry := message.entry } ∈ block.writes := by
  have hmem : (messages.locale, message.key, message.entry) ∈ messages.insertions :=
    List.mem_map_of_mem hmessage
  have hinsertion := List.mem_flatMap.mpr ⟨messages, hmessages, hmem⟩
  exact List.mem_map.mpr ⟨_, hinsertion, rfl⟩

/-- No locale and key are written twice. -/
theorem Distinct.writes_nodup (h : block.Distinct) :
    (block.writes.map fun write => (write.locale, write.key)).Nodup := by
  have hnames : (block.writes.map fun write => (write.locale, write.key))
      = block.locales.flatMap fun messages => messages.keys.map (messages.locale, ·) := by
    simp [writes, insertions, insertionWrite, LocaleBlock.insertions, LocaleBlock.keys,
      List.map_flatMap, Function.comp_def]
  rw [hnames, List.nodup_flatMap]
  refine ⟨fun messages hmessages => ?_, ?_⟩
  · exact (h.keys messages hmessages).map fun _ _ heq => (Prod.ext_iff.mp heq).2
  · refine (List.pairwise_map.mp h.locales).imp fun hne => ?_
    refine List.disjoint_left.mpr fun pair hfirst hsecond => ?_
    obtain ⟨_, -, rfl⟩ := List.mem_map.mp hfirst
    obtain ⟨_, -, heq⟩ := List.mem_map.mp hsecond
    exact hne (Prod.ext_iff.mp heq).1.symm

/-- **In a block without conflicts every message is found under its names.** -/
theorem Distinct.catalog_get? (h : block.Distinct) {messages : LocaleBlock}
    {message : BlockMessage} (hmessages : messages ∈ block.locales)
    (hmessage : message ∈ messages.messages) :
    block.catalog.get? messages.locale message.key = some message.entry := by
  rw [block.catalog_holds.get?]
  exact lastWritten?_of_nodup h.writes_nodup (mem_writes hmessages hmessage)

end MessageBlock

end MessageTemplate
