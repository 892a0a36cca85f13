/-
The lines of a text.

A text can be put together from lines in exactly one way (`isLines_iff`).  A line feed
ends a line, a carriage return just before it belongs to the end and not to the line, and
the last line may have no end, but then it is not empty.  So a carriage return elsewhere
is a character of a line, at the end of the text as well.
-/
import MessageTemplate.Text.Lines

namespace MessageTemplate

namespace Text

/-- The lines of a text, each without what ends it. -/
inductive IsLines : List Char → List (List Char) → Prop
  | nil : IsLines [] []
  /-- The last line, without an end. -/
  | last {line : List Char} (nonempty : line ≠ []) (unbroken : '\n' ∉ line) :
      IsLines line [line]
  | feed {line text : List Char} {lines : List (List Char)} (unbroken : '\n' ∉ line)
      (bare : line.getLast? ≠ some '\r') (rest : IsLines text lines) :
      IsLines (line ++ '\n' :: text) (line :: lines)
  | returnFeed {line text : List Char} {lines : List (List Char)} (unbroken : '\n' ∉ line)
      (rest : IsLines text lines) : IsLines (line ++ '\r' :: '\n' :: text) (line :: lines)

variable {c : Char} {line text : List Char} {lines : List (List Char)}

/-! ### Splitting finds the lines -/

/-- A character with which no end of a line begins belongs to the first line. -/
theorem splitLines_cons (hfeed : c ≠ '\n') (hreturn : c = '\r' → text.head? ≠ some '\n')
    (h : splitLines text = line :: lines) :
    splitLines (c :: text) = (c :: line) :: lines := by
  rw [splitLines]
  · rw [h]
  · intro rest hc htext
    exact hreturn hc (by rw [htext, List.head?_cons])
  · exact hfeed

/-- So do more characters, unless the last of them belongs to the end of the line. -/
theorem splitLines_append {first : List Char} (unbroken : '\n' ∉ line)
    (hreturn : line.getLast? = some '\r' → text.head? ≠ some '\n')
    (h : splitLines text = first :: lines) :
    splitLines (line ++ text) = (line ++ first) :: lines := by
  induction line with
  | nil => exact h
  | cons c line ih =>
      have hc : c ≠ '\n' := (List.ne_of_not_mem_cons unbroken).symm
      have hline : '\n' ∉ line := List.not_mem_of_not_mem_cons unbroken
      cases line with
      | nil =>
          refine splitLines_cons hc (fun hcr => hreturn ?_) h
          rw [hcr, List.getLast?_singleton]
      | cons d line =>
          have hd : d ≠ '\n' := (List.ne_of_not_mem_cons hline).symm
          rw [List.getLast?_cons_cons] at hreturn
          exact splitLines_cons hc (fun _ => by simpa using hd) (ih hline hreturn)

theorem IsLines.splitLines_eq (h : IsLines text lines) : splitLines text = lines := by
  induction h with
  | nil => rfl
  | @last line nonempty unbroken =>
      obtain ⟨before, c, rfl⟩ := (List.eq_nil_or_concat line).resolve_left nonempty
      have hc : c ≠ '\n' := by
        rintro rfl
        exact unbroken (by simp)
      have hsingle : splitLines [c] = [[c]] := by
        rw [splitLines]
        · rfl
        · simp
        · exact hc
      rw [List.concat_eq_append] at unbroken ⊢
      refine splitLines_append (fun hmem => unbroken (List.mem_append_left _ hmem)) ?_ hsingle
      intro _
      simpa using hc
  | @feed line text lines unbroken bare _ ih =>
      have hend : splitLines ('\n' :: text) = [] :: lines := by
        rw [splitLines, ih]
      simpa using splitLines_append unbroken (fun hcr => absurd hcr bare) hend
  | @returnFeed line text lines unbroken _ ih =>
      have hend : splitLines ('\r' :: '\n' :: text) = [] :: lines := by
        rw [splitLines, ih]
      simpa using splitLines_append unbroken (fun _ => by simp) hend

/-! ### Every text has lines -/

/-- A character with which no end of a line begins, before the first line. -/
theorem IsLines.cons (hfeed : c ≠ '\n') (hreturn : c = '\r' → text.head? ≠ some '\n')
    (h : IsLines text (line :: lines)) : IsLines (c :: text) ((c :: line) :: lines) := by
  have hunbroken : ∀ {rest : List Char}, '\n' ∉ rest → '\n' ∉ c :: rest := fun hrest =>
    List.not_mem_cons_of_ne_of_not_mem hfeed.symm hrest
  cases h with
  | last nonempty unbroken => exact IsLines.last (List.cons_ne_nil _ _) (hunbroken unbroken)
  | feed unbroken bare rest =>
      refine IsLines.feed (hunbroken unbroken) ?_ rest
      cases line with
      | nil =>
          rw [List.getLast?_singleton]
          intro hcr
          exact hreturn (Option.some.inj hcr) rfl
      | cons d line => rwa [List.getLast?_cons_cons]
  | returnFeed unbroken rest => exact IsLines.returnFeed (hunbroken unbroken) rest

theorem isLines_splitLines (text : List Char) : IsLines text (splitLines text) := by
  have hempty : '\n' ∉ ([] : List Char) := List.not_mem_nil
  fun_induction splitLines text with
  | case1 => exact IsLines.nil
  | case2 rest ih => exact IsLines.returnFeed hempty ih
  | case3 rest ih => exact IsLines.feed hempty (by simp) ih
  | case4 c rest hreturn hfeed hnil ih =>
      rw [hnil] at ih
      cases ih with
      | nil =>
          refine IsLines.last (List.cons_ne_nil _ _) ?_
          simpa using fun hc : '\n' = c => hfeed hc.symm
  | case5 c rest hreturn hfeed line others hcons ih =>
      rw [hcons] at ih
      refine ih.cons hfeed ?_
      intro hc hhead
      obtain ⟨after, rfl⟩ := List.head?_eq_some_iff.mp hhead
      exact hreturn after hc rfl

/-- **A text is put together from its lines, and from no others.** -/
theorem isLines_iff : IsLines text lines ↔ splitLines text = lines := by
  constructor
  · exact IsLines.splitLines_eq
  · rintro rfl
    exact isLines_splitLines text

end Text

theorem isLines_linesOf (text : String) :
    Text.IsLines text.toList ((linesOf text).map String.toList) := by
  rw [Text.isLines_iff, linesOf, List.map_map]
  simp [Function.comp_def]

end MessageTemplate
