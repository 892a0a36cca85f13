/-
Checking accounts for every template.

The results come in one list, first those for the operands and then those for the lines
of the file that are not blank (`Accounts`).  A line keeps the number that it has in the
file, because the lines are numbered before the blank ones are left out; so the places of
the lines that are checked increase, and they are the places of all lines that are not
blank (`exists_places`).

Whatever is reported is a function of these results, and how it is written does not
matter to the exit status (`Reports`).
-/
import Mathlib.Data.List.DropRight
import Mathlib.Data.List.Forall2
import MessageTemplate.CommandLine
import MessageTemplate.Proofs.Lines

namespace MessageTemplate

namespace CommandLine

/-- Nothing is left of a text without the blanks at its ends exactly if it is blank. -/
theorem trimBlanks_eq_empty_iff (text : String) :
    trimBlanks text = "" ↔ isBlankText text = true := by
  have hempty : trimBlanks text = "" ↔ ∀ c ∈ text.toList.dropWhile isBlank, isBlank c = true := by
    rw [← List.rdropWhile_eq_nil_iff, ← String.toList_inj]
    simp [trimBlanks, List.rdropWhile]
  rw [hempty, isBlankText, List.all_eq_true]
  constructor
  · intro h
    have hfirst := List.head?_dropWhile_not isBlank text.toList
    cases hrest : text.toList.dropWhile isBlank with
    | nil => exact List.dropWhile_eq_nil_iff.mp hrest
    | cons c rest =>
        rw [hrest] at h hfirst
        have hblank := h c List.mem_cons_self
        simp [hblank] at hfirst
  · intro h c hc
    exact h c ((List.dropWhile_suffix isBlank).subset hc)

/-! ### One template -/

namespace CheckedTemplate

/-- **The result for a template under a name**: it is valid exactly if the template parses, and
else it tells of the error and of its place. -/
structure IsFor (result : CheckedTemplate) (name text : String) : Prop where
  source : result.source = name
  template : result.template = text
  accepted : ∀ node, parse text = .ok node →
    result.isValid = true ∧
      result.toJson = .object [("source", .string name), ("template", .string text),
        ("valid", .bool true), ("error", .null), ("position", .null)]
  refused : ∀ error, parse text = .error error →
    result.isValid = false ∧ result.error = some error ∧
      result.toJson = .object [("source", .string name), ("template", .string text),
        ("valid", .bool false), ("error", .string error.message),
        ("position", .array [.integer (error.lineColumn text).1,
          .integer (error.lineColumn text).2])]

theorem isFor_ofTemplate (name text : String) : (ofTemplate name text).IsFor name text where
  source := rfl
  template := rfl
  accepted := by
    intro node hnode
    have hresult : ofTemplate name text = ⟨name, text, none⟩ := by
      rw [ofTemplate, hnode]
    rw [hresult]
    exact ⟨rfl, rfl⟩
  refused := by
    intro error herror
    have hresult : ofTemplate name text = ⟨name, text, some error⟩ := by
      rw [ofTemplate, herror]
    rw [hresult]
    exact ⟨rfl, rfl, rfl⟩

end CheckedTemplate

/-! ### The lines that are not blank -/

/-- The members of a list that are kept stand at increasing places, which are all places of
such members, and they are numbered by these places. -/
theorem exists_places {α : Type} (keep : α → Bool) (xs : List α) :
    ∃ places : List Nat, places.Pairwise (· < ·) ∧
      (∀ place, place ∈ places ↔ ∃ x, xs[place]? = some x ∧ keep x = true) ∧
      List.Forall₂ (fun place entry => xs[place]? = some entry.1 ∧ entry.2 = place + 1) places
        ((xs.zipIdx 1).filter fun entry => keep entry.1) := by
  have hnumbers : (xs.zipIdx 1).filter (fun entry => keep entry.1)
      = (xs.zipIdx.filter fun entry => keep entry.1).map fun entry => (entry.1, entry.2 + 1) := by
    rw [List.zipIdx_succ, List.filter_map]
    rfl
  refine ⟨(xs.zipIdx.filter fun entry => keep entry.1).map (·.2), ?_, ?_, ?_⟩
  · have hall : (xs.zipIdx.map (·.2)).Pairwise (· < ·) := by
      rw [List.zipIdx_map_snd]
      exact List.pairwise_lt_range'
    exact hall.sublist (List.filter_sublist.map _)
  · intro place
    rw [List.mem_map]
    constructor
    · rintro ⟨⟨x, _⟩, hmem, rfl⟩
      obtain ⟨hentry, hkeep⟩ := List.mem_filter.mp hmem
      exact ⟨x, List.mk_mem_zipIdx_iff_getElem?.mp hentry, hkeep⟩
    · rintro ⟨x, hx, hkeep⟩
      exact ⟨(x, place), List.mem_filter.mpr ⟨List.mk_mem_zipIdx_iff_getElem?.mpr hx, hkeep⟩, rfl⟩
  · rw [hnumbers, List.forall₂_map_left_iff, List.forall₂_map_right_iff, List.forall₂_same]
    intro entry hmem
    exact ⟨List.mem_zipIdx_iff_getElem?.mp (List.mem_filter.mp hmem).1, rfl⟩

/-- **Results for the lines of a file at some places**: these are the places of all lines that
are not blank, and each result is for its line, by the number that the line has in the file. -/
structure AreForLines (file : String) (lines : List String) (places : List Nat)
    (results : List CheckedTemplate) : Prop where
  increasing : places.Pairwise (· < ·)
  mem_iff : ∀ place, place ∈ places ↔ ∃ line, lines[place]? = some line ∧ trimBlanks line ≠ ""
  results : List.Forall₂ (fun place result => ∃ line, lines[place]? = some line ∧
    result.IsFor (file ++ ":" ++ toString (place + 1)) line) places results

theorem areForLines_checkLines (file content : String) :
    ∃ places, AreForLines file (linesOf content) places (checkLines file content) := by
  obtain ⟨places, hincreasing, hmem, hentries⟩ :=
    exists_places (fun line => !isBlankText line) (linesOf content)
  refine ⟨places, hincreasing, ?_, ?_⟩
  · intro place
    rw [hmem]
    refine exists_congr fun line => and_congr_right fun _ => ?_
    rw [ne_eq, trimBlanks_eq_empty_iff, Bool.not_eq_true', Bool.not_eq_true]
  · rw [checkLines, List.forall₂_map_right_iff]
    refine hentries.imp ?_
    rintro place ⟨line, _⟩ ⟨hline, rfl⟩
    exact ⟨line, hline, CheckedTemplate.isFor_ofTemplate _ _⟩

/-! ### All results -/

/-- **Results that account for operands and for a file**, which is given by its name and its
content. -/
structure Accounts (templates : List String) (file : Option (String × String))
    (results : List CheckedTemplate) : Prop where
  operands : ∀ place template, templates[place]? = some template →
    ∃ result : CheckedTemplate, results[place]? = some result ∧
      result.IsFor ("argument " ++ toString (place + 1)) template
  alone : file = none → results.length = templates.length
  lines : ∀ name content, file = some (name, content) →
    ∃ lines places, Text.IsLines content.toList (lines.map String.toList) ∧
      AreForLines name lines places (results.drop templates.length)

theorem length_checkOperands (templates : List String) :
    (checkOperands templates).length = templates.length := by
  rw [checkOperands, List.length_map, List.length_zipIdx]

theorem checkOperands_getElem? {templates : List String} {place : Nat} {template : String}
    (h : templates[place]? = some template) :
    (checkOperands templates)[place]?
      = some (.ofTemplate ("argument " ++ toString (place + 1)) template) := by
  rw [checkOperands, List.getElem?_map, List.getElem?_zipIdx, h, Nat.add_comm place 1]
  rfl

theorem accounts_checkOperands (templates : List String) :
    Accounts templates none (checkOperands templates) where
  operands := fun _ _ h => ⟨_, checkOperands_getElem? h, CheckedTemplate.isFor_ofTemplate _ _⟩
  alone := fun _ => length_checkOperands templates
  lines := by
    intro name content h
    simp at h

theorem accounts_checkLines (templates : List String) (name content : String) :
    Accounts templates (some (name, content))
      (checkOperands templates ++ checkLines name content) where
  operands := by
    intro place template h
    refine ⟨_, ?_, CheckedTemplate.isFor_ofTemplate _ _⟩
    have hlt : place < (checkOperands templates).length := by
      rw [length_checkOperands]
      exact (List.getElem?_eq_some_iff.mp h).1
    rw [List.getElem?_append_left hlt, checkOperands_getElem? h]
  alone := by
    intro h
    simp at h
  lines := by
    intro name' content' h
    obtain ⟨rfl, rfl⟩ := Prod.mk.inj (Option.some.inj h)
    obtain ⟨places, hplaces⟩ := areForLines_checkLines name content
    refine ⟨linesOf content, places, isLines_linesOf content, ?_⟩
    rwa [List.drop_left' (length_checkOperands templates)]

/-! ### What is reported -/

/-- **What a run leaves behind that tells of results**, as JSON or as text. -/
structure Reports (results : List CheckedTemplate) (json : Bool) (outcome : Outcome) : Prop where
  code : outcome.status.code
    = if results = [] then 64
      else if ∃ result ∈ results, result.isValid = false then 65
      else 0
  /-- All results, in their order. -/
  asJson : json = true → results ≠ [] →
    outcome.output = unlines [(Json.array (results.map CheckedTemplate.toJson)).pretty]
  /-- The names of the valid results, in their order. -/
  asText : json = false → results ≠ [] →
    outcome.output = unlines ((results.filter (·.isValid)).map (okLine ·.source))
  /-- The number of the invalid results, if there are any. -/
  counted : json = false → (∃ result ∈ results, result.isValid = false) →
    ∃ faults, outcome.messages = unlines (faults ++
      [errorLine (toString (results.countP (!·.isValid)) ++ " of " ++ toString results.length ++
        " templates failed to parse")])

/-- The list of the invalid results is empty if there are none. -/
theorem isEmpty_invalid_iff {results : List CheckedTemplate} :
    (results.filter (!·.isValid)).isEmpty = true ↔
      ¬∃ result ∈ results, result.isValid = false := by
  simp

theorem not_isEmpty {results : List CheckedTemplate} (h : results ≠ []) :
    ¬results.isEmpty = true :=
  fun hempty => h (List.isEmpty_iff.mp hempty)

/-- The exit status, to which it does not matter how the results are written. -/
theorem status_reportChecks (results : List CheckedTemplate) (json : Bool) :
    (reportChecks results json).status
      = if results = [] then .noTemplates
        else if ∃ result ∈ results, result.isValid = false then .invalidTemplate
        else .success := by
  by_cases hempty : results = []
  · rw [if_pos hempty, hempty]
    rfl
  · rw [if_neg hempty]
    simp only [reportChecks, if_neg (not_isEmpty hempty), isEmpty_invalid_iff, ite_not]
    cases json with
    | true => rfl
    | false => rfl

/-- **What is reported tells of the results.** -/
theorem reports_reportChecks (results : List CheckedTemplate) (json : Bool) :
    Reports results json (reportChecks results json) where
  code := by
    rw [status_reportChecks]
    split
    · rfl
    · split
      · rfl
      · rfl
  asJson := by
    rintro rfl hsome
    simp only [reportChecks, if_neg (not_isEmpty hsome)]
    rfl
  asText := by
    rintro rfl hsome
    simp only [reportChecks, if_neg (not_isEmpty hsome)]
    rfl
  counted := by
    rintro rfl hinvalid
    have hsome : results ≠ [] := by
      obtain ⟨result, hmem, -⟩ := hinvalid
      exact List.ne_nil_of_mem hmem
    refine ⟨(results.filter (!·.isValid)).flatMap CheckedTemplate.faultLines, ?_⟩
    simp only [reportChecks, if_neg (not_isEmpty hsome), isEmpty_invalid_iff, hinvalid,
      List.countP_eq_length_filter]
    rfl

/--
**Checking accounts for every template.**

The results are those for the operands, by their positions, and then those for the lines of the
file that are not blank, by their numbers in the file, which count the blank ones.  A template
is valid exactly if it parses.  The exit status is 65 if there is an invalid one, 64 if there is
none at all, and 0 else, and it is the same for both ways to report.
-/
theorem check_accounts {files : String → Option String} {templates : List String}
    {file : Option (String × String)}
    (readable : ∀ name content, file = some (name, content) → files name = some content) :
    ∃ results, Accounts templates file results ∧
      ∀ json, Reports results json
        ((Request.check templates (file.map (·.1)) json).run files) := by
  cases file with
  | none => exact ⟨_, accounts_checkOperands templates, reports_reportChecks _⟩
  | some file =>
      obtain ⟨name, content⟩ := file
      refine ⟨_, accounts_checkLines templates name content, fun json => ?_⟩
      have hrun : (Request.check templates (some name) json).run files
          = reportChecks (checkOperands templates ++ checkLines name content) json := by
        simp only [Request.run, check, readable name content rfl]
      rw [Option.map_some, hrun]
      exact reports_reportChecks _ json

/-- A file with both ends of lines, two lines that are blank, one of them by an em space, and a
last line without an end that does not parse. -/
theorem check_accounts_mixed :
    let content := "Hi\r\n\u2003\n\n\x7bb\r"
    let files := fun name => if name = "messages" then some content else none
    let templates := ["Hi \x7bname\x7d", "\x7d"]
    let file := some ("messages", content)
    (∀ name content, file = some (name, content) → files name = some content) ∧
      (∃ results, Accounts templates file results ∧ ∀ json, Reports results json
        ((Request.check templates (file.map (·.1)) json).run files)) ∧
      ((Request.check templates (some "messages") false).run files).output
        = unlines [okLine "argument 1", okLine "messages:1"] ∧
      ((Request.check templates (some "messages") true).run files).status.code = 65 := by
  intro content files templates file
  have readable : ∀ name content, file = some (name, content) → files name = some content := by
    intro name content h
    obtain ⟨rfl, rfl⟩ := Prod.mk.inj (Option.some.inj h)
    rfl
  exact ⟨readable, check_accounts readable, by decide, by decide⟩

end CommandLine

end MessageTemplate
