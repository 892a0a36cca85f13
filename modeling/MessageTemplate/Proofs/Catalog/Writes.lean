/-
A catalog is what was last written to it.

Everything a catalog can be asked is told by the list of the insertions that succeeded.
The entry for a locale and a key is that of the last one for the two, a locale is there
if any was for it, and names are listed once each and in order (`Catalog.Holds`).

An insertion changes the answer at its own locale and key and nowhere else
(`get?_insert`), and from that the two facts that carry all others follow write by
write.  One of them is about locales: no locale is there without an entry, because a
locale comes into being together with its first entry and entries are never removed.
-/
import MessageTemplate.Catalog
import Mathlib.Data.List.Nodup

namespace MessageTemplate

/-- An insertion that succeeded. -/
structure Write where
  locale : String
  key : String
  entry : Entry

/-- The entry of the last write for a locale and a key; writes are in the order in which
they were made. -/
def lastWritten? (writes : List Write) (locale key : String) : Option Entry :=
  (writes.reverse.find? fun write => write.locale == locale && write.key == key).map (·.entry)

theorem lastWritten?_nil (locale key : String) : lastWritten? [] locale key = none := rfl

theorem lastWritten?_snoc (writes : List Write) (write : Write) (locale key : String) :
    lastWritten? (writes ++ [write]) locale key
      = if write.locale = locale ∧ write.key = key then some write.entry
        else lastWritten? writes locale key := by
  by_cases h : write.locale = locale ∧ write.key = key
  · simp [lastWritten?, h]
  · have hne : (write.locale == locale && write.key == key) = false := by simpa using h
    simp [lastWritten?, h, hne]

theorem lastWritten?_isSome {writes : List Write} {locale key : String} :
    (lastWritten? writes locale key).isSome = true
      ↔ ∃ write ∈ writes, write.locale = locale ∧ write.key = key := by
  simp [lastWritten?]

/-- If no locale and key are written twice, every write is the last for its own. -/
theorem lastWritten?_of_nodup {writes : List Write}
    (hnodup : (writes.map fun write => (write.locale, write.key)).Nodup) {write : Write}
    (hmem : write ∈ writes) : lastWritten? writes write.locale write.key = some write.entry := by
  have hsome : (lastWritten? writes write.locale write.key).isSome = true :=
    lastWritten?_isSome.mpr ⟨write, hmem, rfl, rfl⟩
  obtain ⟨entry, hentry⟩ := Option.isSome_iff_exists.mp hsome
  obtain ⟨other, hfind, rfl⟩ := Option.map_eq_some_iff.mp hentry
  have hother : other ∈ writes := List.mem_reverse.mp (List.mem_of_find?_eq_some hfind)
  have hnames : (other.locale, other.key) = (write.locale, write.key) := by
    simpa using List.find?_some hfind
  rw [hentry, List.inj_on_of_nodup_map hnodup hother hmem hnames]

/-- If no locale and key are written twice, nothing was written before for those of a write. -/
theorem lastWritten?_eq_none_of_nodup {before after : List Write} {write : Write}
    (hnodup : ((before ++ write :: after).map fun write => (write.locale, write.key)).Nodup) :
    lastWritten? before write.locale write.key = none := by
  rw [List.map_append, List.map_cons, List.nodup_append] at hnodup
  rw [← Option.not_isSome_iff_eq_none, lastWritten?_isSome]
  rintro ⟨other, hother, hlocale, hkey⟩
  have hmem := List.mem_map_of_mem (f := fun write : Write => (write.locale, write.key)) hother
  exact hnodup.2.2 _ hmem _ List.mem_cons_self (by rw [hlocale, hkey])

namespace Catalog

/-! ### One insertion -/

/-- The entry in a map of maps. -/
theorem get?_eq_getD (catalog : Catalog) (locale key : String) :
    catalog.get? locale key = (catalog.entries.getD locale ∅)[key]? := by
  unfold get?
  rw [Std.TreeMap.getD_eq_getD_getElem?]
  cases catalog.entries[locale]? with
  | none => simp
  | some messages => rfl

@[simp] theorem get?_empty (locale key : String) : empty.get? locale key = none := by
  simp [get?, empty]

@[simp] theorem hasLocale_empty (locale : String) : empty.hasLocale locale = false := by
  simp [hasLocale, empty]

/-- An insertion gives back what was there. -/
theorem insert_fst (catalog : Catalog) (locale key : String) (entry : Entry) :
    (catalog.insert locale key entry).1 = catalog.get? locale key :=
  (get?_eq_getD catalog locale key).symm

/-- **An insertion changes the entry for its locale and key, and no other.** -/
theorem get?_insert (catalog : Catalog) (locale key : String) (entry : Entry)
    (locale' key' : String) :
    (catalog.insert locale key entry).2.get? locale' key'
      = if locale = locale' ∧ key = key' then some entry else catalog.get? locale' key' := by
  rw [get?_eq_getD, insert, Std.TreeMap.getD_insert]
  by_cases hlocale : locale = locale'
  · subst hlocale
    by_cases hkey : key = key'
    · simp [hkey]
    · simp [hkey, Std.TreeMap.getElem?_insert, get?_eq_getD]
  · simp [hlocale, get?_eq_getD]

theorem hasLocale_insert (catalog : Catalog) (locale key : String) (entry : Entry)
    (locale' : String) :
    (catalog.insert locale key entry).2.hasLocale locale' = true
      ↔ locale = locale' ∨ catalog.hasLocale locale' = true := by
  simp [hasLocale, insert, Std.TreeMap.contains_insert]

/-- A template that parses replaces what was there. -/
theorem loadTemplate_of_ok {template : String} {node : Node} (h : parse template = .ok node)
    (catalog : Catalog) (locale key : String) :
    catalog.loadTemplate locale key template
      = (.ok (catalog.get? locale key), (catalog.insert locale key (Entry.ofNode node)).2) := by
  simp only [loadTemplate, h, catalog.insert_fst]

/-- A template that does not parse leaves the catalog as it is. -/
theorem loadTemplate_of_error {template : String} {cause : ParseError}
    (h : parse template = .error cause) (catalog : Catalog) (locale key : String) :
    catalog.loadTemplate locale key template = (.error { locale, key, cause }, catalog) := by
  simp only [loadTemplate, h]

/-! ### All that was written -/

/-- **A catalog that answers by the last writes.** -/
structure Holds (catalog : Catalog) (writes : List Write) : Prop where
  /-- The entry for a locale and a key is the one written last. -/
  get? : ∀ locale key, catalog.get? locale key = lastWritten? writes locale key
  /-- A locale is there if something was written for it. -/
  hasLocale : ∀ locale, catalog.hasLocale locale = true ↔ ∃ write ∈ writes, write.locale = locale
  mem_locales : ∀ locale, locale ∈ catalog.locales ↔ ∃ write ∈ writes, write.locale = locale
  locales_increasing : catalog.locales.Pairwise (· < ·)
  mem_keys : ∀ locale key, key ∈ catalog.keys locale ↔
    ∃ write ∈ writes, write.locale = locale ∧ write.key = key
  keys_increasing : ∀ locale, (catalog.keys locale).Pairwise (· < ·)

/-- The keys of a map of texts are in order, so each is there once. -/
theorem keys_pairwise_lt {α : Type} (map : Std.TreeMap String α) :
    map.keys.Pairwise (· < ·) := by
  refine map.ordered_keys.imp fun h => ?_
  exact compareOfLessAndEq_eq_lt.mp h

/-- What the entries and the locales of a catalog are settles the rest. -/
theorem Holds.of_get? {catalog : Catalog} {writes : List Write}
    (hget : ∀ locale key, catalog.get? locale key = lastWritten? writes locale key)
    (hlocale : ∀ locale,
      catalog.hasLocale locale = true ↔ ∃ write ∈ writes, write.locale = locale) :
    catalog.Holds writes where
  get? := hget
  hasLocale := hlocale
  mem_locales locale := by
    rw [← hlocale locale, locales, Std.TreeMap.mem_keys]
    rfl
  locales_increasing := keys_pairwise_lt catalog.entries
  mem_keys locale key := by
    rw [← lastWritten?_isSome, ← hget, get?_eq_getD, keys, Std.TreeMap.mem_keys,
      Std.TreeMap.mem_iff_isSome_getElem?]
  keys_increasing locale := keys_pairwise_lt _

theorem Holds.empty : Catalog.empty.Holds [] :=
  Holds.of_get? (by simp [lastWritten?_nil]) (by simp)

/-- **An insertion is one more write.** -/
theorem Holds.insert {catalog : Catalog} {writes : List Write} (h : catalog.Holds writes)
    (write : Write) :
    (catalog.insert write.locale write.key write.entry).2.Holds (writes ++ [write]) := by
  refine Holds.of_get? (fun locale key => ?_) fun locale => ?_
  · rw [get?_insert, lastWritten?_snoc, h.get?]
  · rw [hasLocale_insert, h.hasLocale]
    constructor
    · rintro (rfl | ⟨old, hmem, rfl⟩)
      · exact ⟨write, by simp, rfl⟩
      · exact ⟨old, by simp [hmem], rfl⟩
    · rintro ⟨some, hmem, rfl⟩
      rcases List.mem_append.mp hmem with hold | hnew
      · exact Or.inr ⟨some, hold, rfl⟩
      · exact Or.inl (by rw [List.mem_singleton.mp hnew])

end Catalog

end MessageTemplate
