/-
Escaping is undone by reading.

A text goes into source between the quotes of a string literal, and there it can do no harm:
nothing that is written for it is a control character, and a quote that is written for it is
escaped.  That a quote is escaped is said of the finished text and not of the characters that
it was made from.  There has to be an odd number of backslashes before it, since an even
number are backslashes that are escaped themselves.  What is written for one character ends
with an even number of them, and so it does not matter what stands before
(`Guarded.append`).

A text of a format string goes through a second layer.  Pieces of such texts can be mixed with
holes in any order, for both layers are put on piece by piece.  What is read in the end are the
texts between the holes.
-/
import MessageTemplate.Proofs.Compiled.Reading
import MessageTemplate.Proofs.Source.Spelling
import Mathlib.Algebra.Group.Nat.Even

namespace MessageTemplate

/-- The value of source that is one string literal and nothing else. -/
def Source.stringValue? (source : String) : Option String :=
  match scan? source with
  | some [.string value] => some value
  | _ => none

namespace Literal

/-- The fixed texts of source that is the string literal of a format string: the first one, and
one after each hole. -/
def formatTexts? (source : String) : Option (List String) := do
  let format ← Source.stringValue? source
  let (first, texts) ← decodeFormat format.toList
  return (first :: texts).map String.ofList

/-! ### Quotes -/

/-- The number of backslashes at the end of a text. -/
def backslashesAtEnd (text : List Char) : Nat :=
  (text.reverse.takeWhile (· == '\\')).length

/-- An even number of backslashes before a text makes no difference. -/
theorem even_backslashesAtEnd_append {before : List Char} (h : Even (backslashesAtEnd before))
    (text : List Char) :
    Even (backslashesAtEnd (before ++ text)) ↔ Even (backslashesAtEnd text) := by
  have hsplit : backslashesAtEnd (before ++ text)
      = backslashesAtEnd text
        + if backslashesAtEnd text = text.length then backslashesAtEnd before else 0 := by
    unfold backslashesAtEnd
    rw [List.reverse_append, List.takeWhile_append, List.length_reverse]
    split
    · rename_i hall
      rw [List.length_append, hall, List.length_reverse]
    · rfl
  rw [hsplit]
  split
  · simp [Nat.even_add, h]
  · rfl

/-- **A text in which every quote is escaped**, and which does not escape what comes after it. -/
structure Guarded (text : List Char) : Prop where
  quotes : ∀ before after, text = before ++ '"' :: after → Odd (backslashesAtEnd before)
  closed : Even (backslashesAtEnd text)

namespace Guarded

theorem nil : Guarded [] where
  quotes := by simp
  closed := by simp [backslashesAtEnd]

theorem append {first second : List Char} (h : Guarded first) (h' : Guarded second) :
    Guarded (first ++ second) where
  quotes := by
    intro before after heq
    rcases List.append_eq_append_iff.mp heq with ⟨inside, rfl, hsecond⟩ | ⟨inside, hfirst, hquote⟩
    · rw [← Nat.not_even_iff_odd, even_backslashesAtEnd_append h.closed, Nat.not_even_iff_odd]
      exact h'.quotes inside after hsecond
    · cases inside with
      | nil =>
          -- A quote at the start would not be escaped.
          rw [List.nil_append] at hquote
          have hodd := h'.quotes [] after hquote.symm
          simp [backslashesAtEnd] at hodd
      | cons c inside =>
          obtain ⟨rfl, -⟩ := List.cons.inj hquote
          exact h.quotes before inside hfirst
  closed := (even_backslashesAtEnd_append h.closed second).mpr h'.closed

/-- A text without quotes that does not end with a backslash. -/
theorem plain {text : List Char} {last : Char} (hquote : '"' ∉ text ++ [last])
    (hslash : last ≠ '\\') : Guarded (text ++ [last]) where
  quotes := by
    intro before after heq
    rw [heq] at hquote
    simp at hquote
  closed := by simp [backslashesAtEnd, hslash]

/-- A character after a backslash. -/
theorem escaped (letter : Char) : Guarded ['\\', letter] where
  quotes := by
    intro before after heq
    match before, heq with
    | [], heq => simp at heq
    | [_], heq =>
        obtain ⟨rfl, -⟩ := List.cons.inj heq
        decide
    | _ :: _ :: before, heq => simp at heq
  closed := by
    by_cases hslash : letter = '\\'
    · rw [hslash]
      decide
    · simp [backslashesAtEnd, hslash]

end Guarded

theorem guarded_escapedChar (c : Char) : Guarded (escapedChar c) := by
  rcases escapedChar_cases c with ⟨letter, hletter, -⟩ | ⟨hcode, hlt⟩ | ⟨hself, hquote, hslash, -⟩
  · rw [hletter]
    exact Guarded.escaped letter
  · rw [hcode]
    have hplain : '"' ∉ Text.escapedByCode c := fun hmem => (escapedByCode_plain hlt hmem).2 rfl
    exact Guarded.plain hplain (by decide)
  · rw [hself, ← List.nil_append [c]]
    exact Guarded.plain (by simpa using hquote.symm) hslash

/-- **Every quote of an escaped text is escaped.** -/
theorem guarded_escape (text : String) : Guarded (escape text).toList := by
  rw [escape, String.toList_ofList]
  induction text.toList with
  | nil => exact Guarded.nil
  | cons c rest ih =>
      rw [List.flatMap_cons]
      exact (guarded_escapedChar c).append ih

/-! ### One literal -/

theorem isControl_of_mem_escape {text : String} {c : Char} (h : c ∈ (escape text).toList) :
    isControl c = false := by
  rw [escape, String.toList_ofList] at h
  obtain ⟨d, -, hd⟩ := List.mem_flatMap.mp h
  exact isControl_of_mem_escapedChar hd

/-- **An escaped text between quotes is read back.** -/
theorem stringValue?_escape (text : String) :
    Source.stringValue? ("\"" ++ escape text ++ "\"") = some text := by
  have hquoted : ("\"" ++ escape text ++ "\"").toList = Source.quoted text.toList := by
    simp [escape, Source.quoted]
  have hscan : Source.scan? ("\"" ++ escape text ++ "\"") = some [.string text] := by
    refine Source.scan?_eq ?_ (Source.IsNeutral.plain rfl)
    have hend : Source.afterSuffix [] = [] := rfl
    rw [hquoted]
    simpa using Source.scanAll_quoted text hend
  rw [Source.stringValue?, hscan]

/-! ### Texts put together -/

theorem escape_append (a b : String) : escape (a ++ b) = escape a ++ escape b := by
  simp [escape]

theorem formatText_append (a b : String) : formatText (a ++ b) = formatText a ++ formatText b := by
  simp [formatText]

theorem escapeFormat_append (a b : String) :
    escapeFormat (a ++ b) = escapeFormat a ++ escapeFormat b := by
  rw [escapeFormat, formatText_append, escape_append]
  rfl

/-! ### Texts and holes -/

/-- Texts escaped for a format string, one after the other; `none` is a hole between them. -/
def escapeMixed (pieces : List (Option String)) : String :=
  String.join (pieces.map (·.elim "\x7b\x7d" escapeFormat))

/-- The texts that stand between the holes. -/
def fixedTexts (pieces : List (Option String)) : List String :=
  (pieces.splitOnP Option.isNone).map fun run => String.join (run.map (·.getD ""))

theorem fixedTexts_ne_nil (pieces : List (Option String)) : fixedTexts pieces ≠ [] := by
  intro h
  exact List.splitOnP_ne_nil _ _ (List.map_eq_nil_iff.mp h)

theorem fixedTexts_hole (pieces : List (Option String)) :
    fixedTexts (none :: pieces) = "" :: fixedTexts pieces := by
  simp [fixedTexts, List.splitOnP_cons_eq_if_modifyHead]

theorem fixedTexts_text (text : String) (pieces : List (Option String)) :
    fixedTexts (some text :: pieces) = (fixedTexts pieces).modifyHead (text ++ ·) := by
  unfold fixedTexts
  rw [List.splitOnP_cons_eq_if_modifyHead, if_neg (by simp)]
  cases pieces.splitOnP Option.isNone <;> simp

/-- The format string of texts and holes. -/
def formatMixed (pieces : List (Option String)) : String :=
  String.join (pieces.map (·.elim "\x7b\x7d" formatText))

/-- Texts that are escaped one by one are escaped together; a hole is not changed. -/
theorem escape_formatMixed (pieces : List (Option String)) :
    escape (formatMixed pieces) = escapeMixed pieces := by
  unfold formatMixed escapeMixed
  induction pieces with
  | nil => rfl
  | cons piece rest ih =>
      rw [List.map_cons, String.join_cons, escape_append, ih, List.map_cons, String.join_cons]
      cases piece <;> rfl

/-- The texts between the holes are those of the format string. -/
theorem decodeFormat_formatMixed (pieces : List (Option String)) :
    ∃ first texts, decodeFormat (formatMixed pieces).toList = some (first, texts) ∧
      (first :: texts).map String.ofList = fixedTexts pieces := by
  induction pieces with
  | nil => exact ⟨[], [], rfl, rfl⟩
  | cons piece rest ih =>
      obtain ⟨first, texts, hread, htexts⟩ := ih
      cases piece with
      | none =>
          have hformat : (formatMixed (none :: rest)).toList
              = '{' :: '}' :: (formatMixed rest).toList := by
            simp [formatMixed]
          refine ⟨[], first :: texts, ?_, ?_⟩
          · rw [hformat, decodeFormat, hread]
            rfl
          · rw [fixedTexts_hole, ← htexts]
            rfl
      | some text =>
          have hformat : (formatMixed (some text :: rest)).toList
              = text.toList.flatMap formatChar ++ (formatMixed rest).toList := by
            simp [formatMixed, formatText]
          refine ⟨text.toList ++ first, texts, ?_, ?_⟩
          · rw [hformat, decodeFormat_formatText, hread]
            rfl
          · rw [fixedTexts_text, ← htexts]
            simp [String.ofList_append]

/-- **Texts and holes are read back.** -/
theorem formatTexts?_escapeMixed (pieces : List (Option String)) :
    formatTexts? ("\"" ++ escapeMixed pieces ++ "\"") = some (fixedTexts pieces) := by
  obtain ⟨first, texts, hread, htexts⟩ := decodeFormat_formatMixed pieces
  rw [formatTexts?, ← escape_formatMixed, stringValue?_escape, ← htexts]
  simp [hread]

end Literal

/-! ### Format strings of code -/

open Literal

/-- The texts of flat code, with a hole for each call. -/
def Flat.pieces (flat : Flat) : List (Option String) :=
  some flat.first :: flat.holes.flatMap fun hole => [none, some hole.2]

/-- The format string of flat code is made of its texts, escaped one by one, and of holes. -/
theorem Flat.escape_formatString (flat : Flat) :
    escape flat.formatString = escapeMixed flat.pieces := by
  have hformat : flat.formatString = formatMixed flat.pieces := by
    apply String.toList_injective
    rw [formatString_toList]
    obtain ⟨first, holes⟩ := flat
    induction holes with
    | nil => simp [formatMixed, pieces, formatText]
    | cons hole rest ih => simpa [formatMixed, pieces, formatText] using ih
  rw [hformat, escape_formatMixed]

/-! ### Both layers -/

namespace Literal

/-- **A text whose escaping is undone by reading.** -/
structure IsUndone (text : String) : Prop where
  /-- Nothing that is written for it is a line break or another control character. -/
  visible : ∀ c ∈ (escape text).toList, c ≠ '\n' ∧ c ≠ '\r' ∧ isControl c = false
  /-- A quote has an odd number of backslashes before it. -/
  guarded : ∀ before after, (escape text).toList = before ++ '"' :: after →
    Odd (backslashesAtEnd before)
  /-- Between quotes it is a string literal with the text as its value. -/
  read : Source.stringValue? ("\"" ++ escape text ++ "\"") = some text
  /-- Escaped for a format string, it is one without holes that puts out the text. -/
  formatRead : formatTexts? ("\"" ++ escapeFormat text ++ "\"") = some [text]

/--
**Escaping is undone by reading**, for every text, and for texts that are mixed with holes.

The texts that are read are those between the holes, so there are as many holes as there were.
The format strings of compiled templates are made in this way.
-/
theorem escape_isUndone :
    (∀ text, IsUndone text) ∧
      (∀ a b, escape (a ++ b) = escape a ++ escape b ∧
        escapeFormat (a ++ b) = escapeFormat a ++ escapeFormat b) ∧
      (∀ pieces, formatTexts? ("\"" ++ escapeMixed pieces ++ "\"") = some (fixedTexts pieces)) ∧
      ∀ flat : Flat, escape flat.formatString = escapeMixed flat.pieces := by
  refine ⟨fun text => ?_, fun a b => ⟨escape_append a b, escapeFormat_append a b⟩,
    formatTexts?_escapeMixed, Flat.escape_formatString⟩
  constructor
  case visible =>
    intro c hc
    have hcontrol := isControl_of_mem_escape hc
    obtain ⟨hfeed, hreturn⟩ := ne_break_of_isControl hcontrol
    exact ⟨hfeed, hreturn, hcontrol⟩
  case guarded => exact (guarded_escape text).quotes
  case read => exact stringValue?_escape text
  case formatRead =>
    have hread := formatTexts?_escapeMixed [some text]
    rw [fixedTexts_text] at hread
    simpa [escapeMixed, fixedTexts] using hread

/-- Braces beside a hole, a quote, and a control character whose code stands between braces. -/
example : escapeMixed [some "\"\x7b", none, some "\u0085\x7d"]
    = "\\\"\x7b\x7b\x7b\x7d\\u\x7b85\x7d\x7d\x7d" := by decide

end Literal

end MessageTemplate
