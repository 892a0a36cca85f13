/-
Which conflicts are reported.

The check walks through a block with the locales that it has seen, and through the messages of
each locale with the keys that it has seen there.  What is seen is what comes before, in another
order and without repetitions, and the check asks no more of it than what is in it.  So what is
reported can be said without the walk: for each name whether it occurs among those before it
(`repeatsAfter_eq`, `MessageBlock.conflicts_eq`).
-/
import MessageTemplate.Proofs.MessageBlock.Distinct

namespace MessageTemplate

section

variable {α β : Type}

/-- What is reported for the elements of a list, in order; `report` is told what comes before an
element. -/
def reportEach (report : List α → α → List β) (list : List α) : List β :=
  (list.mapIdx fun i a => report (list.take i) a).flatten

/-- Elements are reported on one after the other, also with more before all of them. -/
theorem reportEach_cons (report : List α → α → List β) (first : α) (rest : List α) :
    reportEach report (first :: rest)
      = report [] first ++ reportEach (fun before => report (first :: before)) rest := by
  simp [reportEach, List.mapIdx_cons]

end

/-- A name that occurs before. -/
def repeatOf (before : List String) (name : String) : List String :=
  if name ∈ before then [name] else []

/-- The names of a list that occur before in it, in order. -/
def repeats (names : List String) : List String :=
  reportEach repeatOf names

/-- The conflicts of a list of messages with those before it and in itself. -/
def conflictsOf (before : List LocaleBlock) (block : LocaleBlock) : List BlockConflict :=
  (repeatOf (before.map (·.locale)) block.locale).map .repeatedLocale ++
    (repeats block.keys).map (.repeatedMessage · block.locale)

/-- A walk through names reports those that are seen or occur before. -/
theorem repeatsAfter_eq (names : List String) : ∀ seen before : List String,
    (∀ name, name ∈ seen ↔ name ∈ before) →
      repeatsAfter seen names = reportEach (fun inside => repeatOf (before ++ inside)) names := by
  induction names with
  | nil =>
      intro seen before _
      rfl
  | cons name names ih =>
      intro seen before hseen
      have hnext : ∀ more : List String, (∀ other, other ∈ more ↔ other ∈ before ++ [name]) →
          repeatsAfter more names
            = reportEach (fun inside => repeatOf (before ++ name :: inside)) names := by
        intro more hmore
        rw [ih more (before ++ [name]) hmore]
        simp only [List.append_assoc, List.singleton_append]
      rw [repeatsAfter, reportEach_cons, List.append_nil, repeatOf]
      by_cases hmem : name ∈ seen
      · -- A name that is seen is not put down again.
        have hsame : ∀ other, other ∈ seen ↔ other ∈ before ++ [name] := by
          intro other
          rw [List.mem_append, List.mem_singleton, ← hseen other]
          constructor
          · exact Or.inl
          · rintro (hold | rfl)
            · exact hold
            · exact hmem
        have hbefore := (hseen name).mp hmem
        rw [if_pos hbefore, if_pos (by simpa using hmem), hnext seen hsame]
        rfl
      · have hmore : ∀ other, other ∈ name :: seen ↔ other ∈ before ++ [name] := by
          intro other
          rw [List.mem_cons, List.mem_append, List.mem_singleton, ← hseen other]
          exact Or.comm
        have hbefore : name ∉ before := fun h => hmem ((hseen name).mpr h)
        rw [if_neg hbefore, if_neg (by simpa using hmem), hnext _ hmore]
        rfl

theorem repeatsAfter_nil (names : List String) : repeatsAfter [] names = repeats names :=
  repeatsAfter_eq names [] [] fun _ => Iff.rfl

theorem conflictsAfter_eq (blocks : List LocaleBlock) : ∀ (seen : List String)
    (before : List LocaleBlock), (∀ name, name ∈ seen ↔ name ∈ before.map (·.locale)) →
      conflictsAfter seen blocks
        = reportEach (fun inside => conflictsOf (before ++ inside)) blocks := by
  induction blocks with
  | nil =>
      intro seen before _
      rfl
  | cons block blocks ih =>
      intro seen before hseen
      have hmore : ∀ name, name ∈ block.locale :: seen
          ↔ name ∈ (before ++ [block]).map (·.locale) := by
        intro name
        rw [List.map_append, List.map_singleton, List.mem_cons, List.mem_append,
          List.mem_singleton, ← hseen name]
        exact Or.comm
      have hnext := ih (block.locale :: seen) (before ++ [block]) hmore
      simp only [List.append_assoc, List.singleton_append] at hnext
      have hlocale : (if seen.contains block.locale = true then
            [BlockConflict.repeatedLocale block.locale] else [])
          = (repeatOf (before.map (·.locale)) block.locale).map .repeatedLocale := by
        unfold repeatOf
        by_cases hmem : block.locale ∈ seen
        · rw [if_pos (by simpa using hmem), if_pos ((hseen _).mp hmem)]
          rfl
        · have hbefore : block.locale ∉ before.map (·.locale) :=
            fun h => hmem ((hseen _).mpr h)
          rw [if_neg (by simpa using hmem), if_neg hbefore]
          rfl
      rw [conflictsAfter, reportEach_cons, List.append_nil, hnext, hlocale, repeatsAfter_nil]
      rfl

/-- **The conflicts of a block are those of its lists of messages, in order.** -/
theorem MessageBlock.conflicts_eq (block : MessageBlock) :
    block.conflicts = reportEach conflictsOf block.locales :=
  conflictsAfter_eq block.locales [] [] fun _ => Iff.rfl

/-- A list for a locale that has one already, with a key that comes three times in all. -/
example :
    let message (key : String) : BlockMessage := { key, content := .literal "" }
    let block : MessageBlock :=
      { locales := [{ locale := "en", messages := [message "a", message "b", message "a"] },
          { locale := "en", messages := [message "a", message "b", message "b", message "b"] }] }
    block.conflicts = [.repeatedMessage "a" "en", .repeatedLocale "en",
      .repeatedMessage "b" "en", .repeatedMessage "b" "en"] := rfl

end MessageTemplate
