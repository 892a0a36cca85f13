/-
Sessions: any number of catalogs and translators, called in any order.

A session keeps catalogs and translators under numbers, and an action is one call on one
of them.  What a session should hold is told by a second state that knows neither maps
nor parsed templates to render: for each catalog the list of its writes, and for each
translator its locale and the lists that its catalogs had when they were copied into it.

One action keeps the two states together (`perform_keeps`), and so does any number of
them.  A call puts back the catalog that it left behind, also if it failed; a template
that does not parse leaves the catalog as it was (`perform_of_error`).
-/
import MessageTemplate.Proofs.Catalog.Writes
import MessageTemplate.Translator
import Mathlib.Data.List.Forall2

namespace MessageTemplate

/-- Catalogs and translators by number. -/
structure Session where
  catalogs : Nat → Catalog
  translators : Nat → Translator

/-- One call on a catalog or a translator. -/
inductive Action where
  | insert (catalog : Nat) (locale key : String) (entry : Entry)
  | insertText (catalog : Nat) (locale key text : String)
  | insertTemplate (catalog : Nat) (locale key template : String)
  /-- Makes one catalog a copy of another. -/
  | copyCatalog (catalog source : Nat)
  /-- Makes a translator for a locale out of copies of catalogs. -/
  | newTranslator (translator : Nat) (locale : String) (catalogs : List Nat)
  | setLocale (translator : Nat) (locale : String)
  /-- Adds a copy of a catalog to a translator. -/
  | pushCatalog (translator : Nat) (catalog : Nat)

/-- What a call gives back: nothing, or what an insertion gives back. -/
abbrev Answer : Type :=
  Option (Except LoadError (Option Entry))

namespace Session

/-- Catalogs without entries, and translators as one starts with them. -/
def start : Session :=
  { catalogs := fun _ => Catalog.empty, translators := fun _ => Translator.initial }

/-- A session with another catalog under a number. -/
def setCatalog (session : Session) (n : Nat) (catalog : Catalog) : Session :=
  { session with catalogs := Function.update session.catalogs n catalog }

/-- A session with another translator under a number. -/
def setTranslator (session : Session) (n : Nat) (translator : Translator) : Session :=
  { session with translators := Function.update session.translators n translator }

/-- Makes a call. -/
def perform (session : Session) : Action → Answer × Session
  | .insert n locale key entry =>
    let (replaced, catalog) := (session.catalogs n).insert locale key entry
    (some (.ok replaced), session.setCatalog n catalog)
  | .insertText n locale key text =>
    let (replaced, catalog) := (session.catalogs n).insertText locale key text
    (some (.ok replaced), session.setCatalog n catalog)
  | .insertTemplate n locale key template =>
    let (result, catalog) := (session.catalogs n).loadTemplate locale key template
    (some result, session.setCatalog n catalog)
  | .copyCatalog n source => (none, session.setCatalog n (session.catalogs source))
  | .newTranslator n locale catalogs =>
    (none, session.setTranslator n { locale, catalogs := catalogs.map session.catalogs })
  | .setLocale n locale =>
    (none, session.setTranslator n ((session.translators n).setLocale locale))
  | .pushCatalog n catalog =>
    (none,
      session.setTranslator n ((session.translators n).pushCatalog (session.catalogs catalog)))

/-- Makes calls one after the other. -/
def performAll (session : Session) (actions : List Action) : Session :=
  actions.foldl (fun session action => (session.perform action).2) session

end Session

/-! ### What a session should hold -/

/-- A locale, and the writes of the catalogs to search. -/
structure Search where
  locale : String
  stores : List (List Write)

/-- The writes of the catalogs, and the searches of the translators. -/
structure Record where
  writes : Nat → List Write
  searches : Nat → Search

/-- What an action writes, and to which catalog: nothing if it is no insertion, or if its
template does not parse. -/
def Action.write? : Action → Option (Nat × Write)
  | .insert n locale key entry => some (n, { locale, key, entry })
  | .insertText n locale key text => some (n, { locale, key, entry := .text text })
  | .insertTemplate n locale key template =>
    match parse template with
    | .ok node => some (n, { locale, key, entry := Entry.ofNode node })
    | .error _ => none
  | _ => none

namespace Record

/-- Nothing was written, and every search is for `en` and searches nothing. -/
def start : Record :=
  { writes := fun _ => [], searches := fun _ => { locale := "en", stores := [] } }

/-- Takes note of an action. -/
def note (record : Record) (action : Action) : Record :=
  match action with
  | .copyCatalog n source =>
    { record with writes := Function.update record.writes n (record.writes source) }
  | .newTranslator n locale catalogs =>
    { record with
      searches := Function.update record.searches n
        { locale, stores := catalogs.map record.writes } }
  | .setLocale n locale =>
    { record with
      searches := Function.update record.searches n { record.searches n with locale } }
  | .pushCatalog n catalog =>
    let search := record.searches n
    { record with
      searches := Function.update record.searches n
        { search with stores := search.stores ++ [record.writes catalog] } }
  | insertion =>
    match insertion.write? with
    | some (n, write) =>
      { record with writes := Function.update record.writes n (record.writes n ++ [write]) }
    | none => record

/-- Takes note of actions one after the other. -/
def noteAll (record : Record) (actions : List Action) : Record :=
  actions.foldl note record

end Record

/-- What a call should give back: an insertion the entry that is there already, or why
its template does not parse. -/
def Session.answer (session : Session) : Action → Answer
  | .insert n locale key _ => some (.ok ((session.catalogs n).get? locale key))
  | .insertText n locale key _ => some (.ok ((session.catalogs n).get? locale key))
  | .insertTemplate n locale key template =>
    match parse template with
    | .ok _ => some (.ok ((session.catalogs n).get? locale key))
    | .error cause => some (.error { locale, key, cause })
  | _ => none

/-! ### Translators -/

/-- **A translator that renders what the first catalog with an entry has last written.** -/
structure Translator.Serves (translator : Translator) (search : Search) : Prop where
  locale : translator.locale = search.locale
  /-- The entry of the earliest catalog that has one is rendered. -/
  found : ∀ {σ : Type} (sink : Sink σ) (values : Values) (key : String)
      (before after : List (List Write)) (store : List Write) (entry : Entry),
    search.stores = before ++ store :: after →
    (∀ other ∈ before, lastWritten? other search.locale key = none) →
    lastWritten? store search.locale key = some entry →
    translator.translate sink values key = entry.render sink values
  /-- If no catalog has the locale, this is reported once. -/
  missingLocale : ∀ {σ : Type} (sink : Sink σ) (values : Values) (key : String) (state : σ),
    (∀ store ∈ search.stores, ∀ write ∈ store, write.locale ≠ search.locale) →
    (translator.translate sink values key).run state
      = ("\x7b\x7b" ++ search.locale ++ ":" ++ key ++ "\x7d\x7d",
          sink.report (.missingLocale search.locale) state)
  /-- If some catalog has the locale and none the key in it, this is reported once. -/
  missingKey : ∀ {σ : Type} (sink : Sink σ) (values : Values) (key : String) (state : σ),
    (∃ store ∈ search.stores, ∃ write ∈ store, write.locale = search.locale) →
    (∀ store ∈ search.stores, lastWritten? store search.locale key = none) →
    (translator.translate sink values key).run state
      = ("\x7b\x7b" ++ search.locale ++ ":" ++ key ++ "\x7d\x7d",
          sink.report (.missingKey search.locale key) state)

/-- A translator with the locale and the catalogs of a search. -/
structure Translator.Matches (translator : Translator) (search : Search) : Prop where
  locale : translator.locale = search.locale
  catalogs : List.Forall₂ Catalog.Holds translator.catalogs search.stores

namespace Translator.Matches

variable {translator : Translator} {search : Search} (h : translator.Matches search)

include h

/-- Looking up in the catalogs is looking up among the writes. -/
theorem lookup?_eq (key : String) :
    translator.lookup? key = search.stores.findSome? (lastWritten? · search.locale key) := by
  unfold Translator.lookup?
  rw [h.locale]
  have hcatalogs := h.catalogs
  generalize translator.catalogs = catalogs at hcatalogs
  generalize search.stores = stores at hcatalogs
  induction hcatalogs with
  | nil => rfl
  | cons holds _ ih => rw [List.findSome?_cons, List.findSome?_cons, holds.get?, ih]

/-- A catalog has the locale if something was written for it. -/
theorem any_hasLocale :
    translator.catalogs.any (·.hasLocale translator.locale) = true
      ↔ ∃ store ∈ search.stores, ∃ write ∈ store, write.locale = search.locale := by
  rw [h.locale]
  have hcatalogs := h.catalogs
  generalize translator.catalogs = catalogs at hcatalogs
  generalize search.stores = stores at hcatalogs
  induction hcatalogs with
  | nil => simp
  | cons holds _ ih =>
      rw [List.any_cons, Bool.or_eq_true, holds.hasLocale, List.exists_mem_cons_iff]
      exact or_congr_right ih

/-- What is said about a message that is not there. -/
theorem translate_of_missing {σ : Type} (sink : Sink σ) (values : Values) {key : String}
    (hmissing : ∀ store ∈ search.stores, lastWritten? store search.locale key = none)
    (state : σ) :
    (translator.translate sink values key).run state
      = ("\x7b\x7b" ++ search.locale ++ ":" ++ key ++ "\x7d\x7d",
          sink.report (translator.missing key) state) := by
  have hlookup : translator.lookup? key = none := by
    rw [h.lookup?_eq, List.findSome?_eq_none_iff]
    exact hmissing
  rw [← h.locale]
  unfold Translator.translate
  rw [hlookup]
  rfl

theorem serves : translator.Serves search where
  locale := h.locale
  found := by
    intro σ sink values key before after store entry hstores hbefore hentry
    have hlookup : translator.lookup? key = some entry := by
      rw [h.lookup?_eq, hstores, List.findSome?_append,
        List.findSome?_eq_none_iff.mpr hbefore, List.findSome?_cons, hentry]
      rfl
    unfold Translator.translate
    rw [hlookup]
  missingLocale := by
    intro σ sink values key state hnone
    have hmissing : ∀ store ∈ search.stores, lastWritten? store search.locale key = none := by
      intro store hstore
      rw [← Option.not_isSome_iff_eq_none, lastWritten?_isSome]
      rintro ⟨write, hwrite, hlocale, -⟩
      exact hnone store hstore write hwrite hlocale
    have hany : ¬translator.catalogs.any (·.hasLocale translator.locale) = true := by
      rw [h.any_hasLocale]
      rintro ⟨store, hstore, write, hwrite, hlocale⟩
      exact hnone store hstore write hwrite hlocale
    rw [h.translate_of_missing sink values hmissing, Translator.missing, if_neg hany, h.locale]
  missingKey := by
    intro σ sink values key state hsome hmissing
    rw [h.translate_of_missing sink values hmissing, Translator.missing,
      if_pos (h.any_hasLocale.mpr hsome), h.locale]

end Translator.Matches

/-! ### One action and many -/

/-- A session and a record that go together. -/
structure Session.Follows (session : Session) (record : Record) : Prop where
  catalogs : ∀ n, (session.catalogs n).Holds (record.writes n)
  translators : ∀ n, (session.translators n).Matches (record.searches n)

namespace Session

variable {session : Session} {record : Record}

theorem start_follows : start.Follows Record.start where
  catalogs _ := Catalog.Holds.empty
  translators _ := ⟨rfl, List.Forall₂.nil⟩

theorem Follows.setCatalog (h : session.Follows record) (n : Nat) {catalog : Catalog}
    {writes : List Write} (holds : catalog.Holds writes) :
    (session.setCatalog n catalog).Follows
      { record with writes := Function.update record.writes n writes } where
  catalogs m := by
    by_cases hm : m = n
    · subst hm
      simpa [Session.setCatalog] using holds
    · simpa [Session.setCatalog, hm] using h.catalogs m
  translators := h.translators

theorem Follows.setTranslator (h : session.Follows record) (n : Nat)
    {translator : Translator} {search : Search} (agree : translator.Matches search) :
    (session.setTranslator n translator).Follows
      { record with searches := Function.update record.searches n search } where
  catalogs := h.catalogs
  translators m := by
    by_cases hm : m = n
    · subst hm
      simpa [Session.setTranslator] using agree
    · simpa [Session.setTranslator, hm] using h.translators m

theorem setCatalog_self (session : Session) (n : Nat) :
    session.setCatalog n (session.catalogs n) = session := by
  rw [Session.setCatalog, Function.update_eq_self]

/-- **An action keeps a session and its record together.** -/
theorem perform_keeps (h : session.Follows record) (action : Action) :
    (session.perform action).2.Follows (record.note action) := by
  cases action with
  | insert n locale key entry =>
      exact h.setCatalog n ((h.catalogs n).insert { locale, key, entry })
  | insertText n locale key text =>
      exact h.setCatalog n ((h.catalogs n).insert { locale, key, entry := .text text })
  | insertTemplate n locale key template =>
      cases hparse : parse template with
      | ok node =>
          simp only [perform, Catalog.loadTemplate_of_ok hparse, Record.note, Action.write?, hparse]
          exact h.setCatalog n
            ((h.catalogs n).insert { locale, key, entry := Entry.ofNode node })
      | error cause =>
          simp only [perform, Catalog.loadTemplate_of_error hparse, Record.note, Action.write?,
            hparse, setCatalog_self]
          exact h
  | copyCatalog n source => exact h.setCatalog n (h.catalogs source)
  | newTranslator n locale catalogs =>
      refine h.setTranslator n ⟨rfl, ?_⟩
      rw [List.forall₂_map_left_iff, List.forall₂_map_right_iff]
      exact List.forall₂_same.mpr fun m _ => h.catalogs m
  | setLocale n locale => exact h.setTranslator n ⟨rfl, (h.translators n).catalogs⟩
  | pushCatalog n catalog =>
      have hold := h.translators n
      refine h.setTranslator n ⟨hold.locale, ?_⟩
      exact List.rel_append hold.catalogs (List.Forall₂.cons (h.catalogs catalog) .nil)

/-- Any number of actions does. -/
theorem performAll_follows (h : session.Follows record) (actions : List Action) :
    (session.performAll actions).Follows (record.noteAll actions) := by
  induction actions generalizing session record with
  | nil => exact h
  | cons action actions ih => exact ih (perform_keeps h action)

/-- **Insertions give back what was there.** -/
theorem perform_fst (session : Session) (action : Action) :
    (session.perform action).1 = session.answer action := by
  cases action with
  | insert n locale key entry => simp only [perform, answer, Catalog.insert_fst]
  | insertText n locale key text =>
      simp only [perform, answer, Catalog.insertText, Catalog.insert_fst]
  | insertTemplate n locale key template =>
      cases hparse : parse template with
      | ok node =>
          simp only [perform, answer, Catalog.loadTemplate_of_ok hparse, hparse]
      | error cause => simp only [perform, answer, Catalog.loadTemplate_of_error hparse, hparse]
  | copyCatalog n source => rfl
  | newTranslator n locale catalogs => rfl
  | setLocale n locale => rfl
  | pushCatalog n catalog => rfl

/-- A call that fails changes nothing. -/
theorem perform_of_error {action : Action} {error : LoadError}
    (h : (session.perform action).1 = some (.error error)) :
    (session.perform action).2 = session := by
  cases action with
  | insertTemplate n locale key template =>
      cases hparse : parse template with
      | ok node => simp [perform, Catalog.loadTemplate_of_ok hparse] at h
      | error cause =>
          simp only [perform, Catalog.loadTemplate_of_error hparse, setCatalog_self]
  | _ => simp [perform] at h

/-- **A session that refines a record of its writes.** -/
structure Refines (session : Session) (record : Record) : Prop where
  /-- Every catalog is what was written to it. -/
  catalogs : ∀ n, (session.catalogs n).Holds (record.writes n)
  /-- Every translator renders from what its catalogs were when they were copied. -/
  translators : ∀ n, (session.translators n).Serves (record.searches n)
  /-- Every call gives back what it should. -/
  answers : ∀ action, (session.perform action).1 = session.answer action
  /-- A call that fails changes nothing. -/
  failures : ∀ action error, (session.perform action).1 = some (.error error) →
    (session.perform action).2 = session

/--
**Catalogs and translators refine a store of last writes, over whole sessions.**

Whatever calls were made, in whatever order, the session is what the record of the calls
says, and so is every answer that it gives next.
-/
theorem performAll_refines (actions : List Action) :
    (start.performAll actions).Refines (Record.start.noteAll actions) where
  catalogs := (performAll_follows start_follows actions).catalogs
  translators n := ((performAll_follows start_follows actions).translators n).serves
  answers := perform_fst _
  failures _ _ := perform_of_error

end Session

end MessageTemplate
