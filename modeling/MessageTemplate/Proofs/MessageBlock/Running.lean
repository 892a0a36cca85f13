/-
A checked block overwrites nothing.

The function that gives the catalog of a block is a list of insertions, and each of them would
silently replace an entry that is there.  What an insertion replaces is told by the writes before
it, and in a block without conflicts no locale and key are written twice.  So each message is
inserted once and into a free place, and the catalog at the end holds the messages of the block
and nothing else (`MessageBlock.FillsCatalog`).

All of this is said of the code as it is read back from its lexemes.  An insertion may name a
function, and in a block without conflicts the path leads to the function for its message.
-/
import MessageTemplate.Proofs.MessageBlock.Conflicts
import MessageTemplate.Proofs.MessageBlock.Reading

namespace MessageTemplate

open Source

/-! ### Running insertions -/

/-- The entry that an insertion puts into the catalog, given the functions of modules. -/
def EntryCode.run? (modules : List (String × List (String × CompiledFunction))) :
    EntryCode → Option Entry
  | text t => some (.text t)
  | function module name => do
    let functions ← modules.lookup module
    let function ← functions.lookup name
    return .compiled function

/-- What an insertion writes. -/
def InsertionCode.write? (modules : List (String × List (String × CompiledFunction)))
    (insertion : InsertionCode) : Option Write :=
  (insertion.entry.run? modules).map fun entry =>
    { locale := insertion.locale, key := insertion.key, entry }

namespace BlockCode

/-- Runs insertions on a catalog: what each of them wrote and the entry that it replaced, and
the catalog at the end. -/
def runInsertions? (modules : List (String × List (String × CompiledFunction))) :
    List InsertionCode → Catalog → Option (List (Write × Option Entry) × Catalog)
  | [], catalog => some ([], catalog)
  | insertion :: rest, catalog => do
    let write ← insertion.write? modules
    let (replaced, next) := catalog.insert write.locale write.key write.entry
    let (done, last) ← runInsertions? modules rest next
    return ((write, replaced) :: done, last)

/-- Runs the function that gives the catalog. -/
def runCatalog? (code : BlockCode) : Option (List (Write × Option Entry) × Catalog) :=
  runInsertions? code.modules code.insertions Catalog.empty

/-- **Insertions for different locales and keys replace nothing**, if nothing was written for
these before. -/
theorem runInsertions?_of_nodup {modules : List (String × List (String × CompiledFunction))}
    {insertions : List InsertionCode} {writes : List Write}
    (made : insertions.map (·.write? modules) = writes.map some) :
    ∀ {before : List Write} {catalog : Catalog}, catalog.Holds before →
      ((before ++ writes).map fun write => (write.locale, write.key)).Nodup →
      runInsertions? modules insertions catalog
        = some (writes.map (·, none), writes.foldl
            (fun catalog write => (catalog.insert write.locale write.key write.entry).2)
            catalog) := by
  induction insertions generalizing writes with
  | nil =>
      intro before catalog _ _
      obtain rfl : writes = [] := by simpa using made.symm
      rfl
  | cons insertion insertions ih =>
      intro before catalog holds nodup
      cases writes with
      | nil => simp at made
      | cons write writes =>
          rw [List.map_cons, List.map_cons, List.cons.injEq] at made
          obtain ⟨hwrite, hrest⟩ := made
          have hfree : catalog.get? write.locale write.key = none := by
            rw [holds.get?]
            exact lastWritten?_eq_none_of_nodup nodup
          have hnext : (before ++ [write] ++ writes) = before ++ write :: writes := by simp
          have hrun := ih hrest (holds.insert write) (by rw [hnext]; exact nodup)
          rw [runInsertions?, hwrite]
          simp only [Option.bind_eq_bind, Option.bind_some, hrun, catalog.insert_fst, hfree]
          rfl

end BlockCode

/-! ### The code of a block without conflicts -/

namespace MessageBlock

variable {block : MessageBlock} {messages : LocaleBlock} {message : BlockMessage}

/-- The write that a message stands for. -/
def messageWrite (locale : String) (message : BlockMessage) : Write :=
  { locale, key := message.key, entry := message.entry }

theorem writes_eq (block : MessageBlock) :
    block.writes = block.locales.flatMap fun messages =>
      messages.messages.map (messageWrite messages.locale) := by
  rw [writes, insertions, List.map_flatMap]
  refine List.flatMap_congr fun messages _ => ?_
  rw [LocaleBlock.insertions, List.map_map]
  rfl

/-- A path in the code leads to the function for its message. -/
theorem Distinct.lookup_function (h : block.Distinct) (hmessages : messages ∈ block.locales)
    (hmessage : message ∈ messages.messages) :
    block.code.modules.lookup messages.locale = some messages.functions ∧
      messages.functions.lookup message.key = some (CompiledFunction.ofNode message.content) := by
  constructor
  · apply lookup_of_mem
    · have hlocales := h.locales
      simpa [MessageBlock.code, optionKeys, Function.comp_def] using hlocales
    · exact List.mem_map_of_mem hmessages
  · apply lookup_of_mem
    · have hkeys := h.keys messages hmessages
      simpa [LocaleBlock.functions, LocaleBlock.keys, optionKeys, Function.comp_def] using hkeys
    · exact List.mem_map_of_mem hmessage

/-- The insertion of a message writes the entry of the message. -/
theorem Distinct.run?_entryCode (h : block.Distinct) (hmessages : messages ∈ block.locales)
    (hmessage : message ∈ messages.messages) :
    (message.entryCode messages.locale).run? block.code.modules = some message.entry := by
  obtain ⟨hmodule, hfunction⟩ := h.lookup_function hmessages hmessage
  rw [BlockMessage.entryCode, BlockMessage.entry]
  cases message.content.literalText with
  | some text => rfl
  | none =>
      simp only [EntryCode.run?, hmodule, Option.bind_eq_bind, Option.bind_some, hfunction]
      rfl

/-- **The insertions of a block write its messages**, in order. -/
theorem Distinct.map_write? (h : block.Distinct) :
    block.code.insertions.map (·.write? block.code.modules) = block.writes.map some := by
  rw [writes_eq, List.map_flatMap]
  refine (List.map_flatMap ..).trans (List.flatMap_congr fun messages hmessages => ?_)
  rw [LocaleBlock.insertionCodes, List.map_map, List.map_map]
  refine List.map_congr_left fun message hmessage => ?_
  show ((message.entryCode messages.locale).run? block.code.modules).map _ = _
  rw [h.run?_entryCode hmessages hmessage]
  rfl

/-- What is written is written for a message. -/
theorem mem_writes_iff {write : Write} :
    write ∈ block.writes ↔ ∃ messages ∈ block.locales, ∃ message ∈ messages.messages,
      messageWrite messages.locale message = write := by
  simp only [writes_eq, List.mem_flatMap, List.mem_map]

/-- Something is written for a locale if there is a message for it. -/
theorem exists_write_iff {locale : String} :
    (∃ write ∈ block.writes, write.locale = locale)
      ↔ ∃ messages ∈ block.locales, messages.locale = locale ∧ messages.messages ≠ [] := by
  constructor
  · rintro ⟨write, hwrite, rfl⟩
    obtain ⟨messages, hmessages, message, hmessage, rfl⟩ := mem_writes_iff.mp hwrite
    exact ⟨messages, hmessages, rfl, List.ne_nil_of_mem hmessage⟩
  · rintro ⟨messages, hmessages, rfl, hsome⟩
    obtain ⟨message, hmessage⟩ := List.exists_mem_of_ne_nil _ hsome
    exact ⟨messageWrite messages.locale message,
      mem_writes_iff.mpr ⟨messages, hmessages, message, hmessage, rfl⟩, rfl⟩

/-- **Code of a block that puts its messages into a catalog**, all of them and nothing else. -/
structure FillsCatalog (block : MessageBlock) (lexemes : List Lexeme) : Prop where
  /-- The function that gives the catalog runs.  It inserts each message once and in order, and
  no insertion replaces an entry. -/
  inserted : ∃ code, BlockCode.ofLexemes? lexemes = some code ∧
    code.runCatalog? = some
      (block.locales.flatMap fun messages => messages.messages.map fun message =>
          ({ locale := messages.locale, key := message.key, entry := message.entry }, none),
        block.catalog)
  /-- Each message is found under its names. -/
  found : ∀ messages ∈ block.locales, ∀ message ∈ messages.messages,
    block.catalog.get? messages.locale message.key = some message.entry
  /-- Nothing else is found. -/
  only : ∀ locale key entry, block.catalog.get? locale key = some entry →
    ∃ messages ∈ block.locales, ∃ message ∈ messages.messages,
      messages.locale = locale ∧ message.key = key ∧ message.entry = entry
  /-- A locale is there if it has a message. -/
  hasLocale : ∀ locale, block.catalog.hasLocale locale = true
    ↔ ∃ messages ∈ block.locales, messages.locale = locale ∧ messages.messages ≠ []
  locales : ∀ locale, locale ∈ block.catalog.locales
    ↔ ∃ messages ∈ block.locales, messages.locale = locale ∧ messages.messages ≠ []

/-- The function that gives the catalog of a block without conflicts replaces nothing. -/
theorem Distinct.runCatalog? (h : block.Distinct) :
    block.code.runCatalog? = some (block.writes.map (·, none), block.catalog) := by
  have hrun := BlockCode.runInsertions?_of_nodup h.map_write? Catalog.Holds.empty h.writes_nodup
  rw [BlockCode.runCatalog?, hrun, catalog, writes, List.foldl_map]
  rfl

/-- **The code of a block without conflicts puts its messages into a catalog.** -/
theorem Distinct.fillsCatalog (h : block.Distinct) : block.FillsCatalog block.lexemes where
  inserted := by
    refine ⟨block.code, BlockCode.ofLexemes?_lexemes block, ?_⟩
    rw [h.runCatalog?, writes_eq, List.map_flatMap]
    simp only [List.map_map]
    rfl
  found := fun messages hmessages message hmessage => h.catalog_get? hmessages hmessage
  only := by
    intro locale key entry hentry
    have hsome : (lastWritten? block.writes locale key).isSome = true := by
      rw [← block.catalog_holds.get?, hentry]
      rfl
    obtain ⟨write, hwrite, rfl, rfl⟩ := lastWritten?_isSome.mp hsome
    obtain ⟨messages, hmessages, message, hmessage, rfl⟩ := mem_writes_iff.mp hwrite
    have hown := h.catalog_get? hmessages hmessage
    exact ⟨messages, hmessages, message, hmessage, rfl, rfl,
      Option.some.inj (hown.symm.trans hentry)⟩
  hasLocale := fun locale => (block.catalog_holds.hasLocale locale).trans exists_write_iff
  locales := fun locale => (block.catalog_holds.mem_locales locale).trans exists_write_iff

/-! ### The check -/

/-- **A block of which the check finds all conflicts**, and whose code overwrites nothing. -/
structure IsChecked (block : MessageBlock) : Prop where
  /-- The check finds nothing exactly if no name is given twice in its place. -/
  passes : block.conflicts = [] ↔ block.Distinct
  /-- What it finds are the names that are given twice, list by list: that of the locale first,
  and then the keys in their order. -/
  found : block.conflicts = reportEach conflictsOf block.locales
  /-- Source of the block is refused for them, if there are any. -/
  refused : ∀ source, ofSource source = .ok block → ∀ conflicts,
    MessageBlock.compile source = .error (.conflicting conflicts)
      ↔ ¬block.Distinct ∧ conflicts = block.conflicts
  /-- If there are none and no name is raw, the block has code. -/
  accepted : ∀ source, ofSource source = .ok block → block.Distinct →
    (∀ name ∈ block.names, isRaw name = false) →
    MessageBlock.compile source = .ok (block, block.lexemes)
  /-- The code overwrites nothing. -/
  fills : ∀ source lexemes, MessageBlock.compile source = .ok (block, lexemes) →
    block.FillsCatalog lexemes

/-- Source that has code is that of a block without conflicts, and the code is that of the
block. -/
theorem distinct_of_compile {source : String} {lexemes : List Lexeme}
    (h : MessageBlock.compile source = .ok (block, lexemes)) :
    block.Distinct ∧ lexemes = block.lexemes := by
  unfold MessageBlock.compile at h
  cases hsource : ofSource source with
  | error fault => simp [hsource] at h
  | ok read =>
      simp only [hsource] at h
      by_cases hconflicts : read.conflicts.isEmpty = true
      · rw [if_pos hconflicts] at h
        cases hraw : read.names.find? isRaw with
        | some name => simp [hraw] at h
        | none =>
            simp only [hraw] at h
            obtain ⟨rfl, rfl⟩ := Prod.mk.inj (Except.ok.inj h)
            exact ⟨conflicts_eq_nil_iff.mp (by simpa using hconflicts), rfl⟩
      · rw [if_neg hconflicts] at h
        simp at h

/--
**The check accepts the blocks without conflicts, and their code overwrites nothing.**

A name that is given again is reported once for each time that it comes again, in the order of
the source.  If the block has code, the insertions in it write each message once, and the catalog
has the entries of the messages and no others.
-/
theorem isChecked (block : MessageBlock) : block.IsChecked where
  passes := conflicts_eq_nil_iff
  found := block.conflicts_eq
  refused := by
    intro source hsource conflicts
    rw [← conflicts_eq_nil_iff]
    simp only [MessageBlock.compile, hsource]
    by_cases hconflicts : block.conflicts = []
    · simp only [hconflicts, List.isEmpty_nil, if_true, not_true_eq_false, false_and, iff_false]
      cases block.names.find? isRaw <;> simp
    · have hsome : block.conflicts.isEmpty = false := by simpa using hconflicts
      simp only [hsome, Bool.false_eq_true, if_false, hconflicts, not_false_eq_true, true_and]
      constructor
      · intro herror
        injection herror with hconflicting
        injection hconflicting with hfound
        exact hfound.symm
      · rintro rfl
        rfl
  accepted := fun _ hsource distinct notRaw => distinct.compile notRaw hsource
  fills := by
    intro source lexemes hcompile
    obtain ⟨distinct, rfl⟩ := distinct_of_compile hcompile
    exact distinct.fillsCatalog

end MessageBlock

end MessageTemplate
