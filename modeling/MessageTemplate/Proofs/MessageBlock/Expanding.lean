/-
Which blocks have code.

The names of a block are the words of its source, and each is made an identifier of the code
again.  That succeeds for a plain word only.  So a block that has passed all checks has code
exactly if no name is written raw (`expands`), and then modules and functions have the names that
are written.
-/
import MessageTemplate.Proofs.MessageBlock.Running
import MessageTemplate.Proofs.MessageBlock.Written
import MessageTemplate.Proofs.Source.ScannedWords

namespace MessageTemplate

open Source

/-- The names of modules and of the functions in them, in order. -/
def BlockCode.names (code : BlockCode) : List String :=
  code.modules.flatMap fun module => module.1 :: module.2.map (·.1)

namespace MessageBlock

/-- The names that locales and messages have, in order. -/
def namesOf (locales : List LocaleBlock) : List String :=
  locales.flatMap fun messages => messages.locale :: messages.keys

mutual

/-- **The names of locales are the words of their source**, and no name is a keyword. -/
theorem names_of_readLocales : ∀ {lexemes : List Lexeme} {locales : List LocaleBlock},
    readLocales lexemes = .ok locales → namesOf locales = words lexemes ∧
      ∀ name ∈ namesOf locales, isKeyword name = false
  | lexemes, locales, h => by
      unfold readLocales at h
      split at h
      · obtain rfl := Except.ok.inj h
        simp [namesOf]
      · rename_i locale rest
        split at h
        · simp at h
        · rename_i hkeyword
          split at h
          · rename_i messages others hmessages
            obtain rfl := Except.ok.inj h
            obtain ⟨hnames, hkeywords⟩ := names_of_readMessages hmessages
            have hall : namesOf ({ locale, messages } :: others)
                = locale :: (messages.map (·.key) ++ namesOf others) := by
              simp [namesOf, LocaleBlock.keys]
            rw [hall, List.forall_mem_cons]
            exact ⟨by simp [hnames, Lexeme.word?], by simpa using hkeyword, hkeywords⟩
          · simp at h
      · simp at h

theorem names_of_readMessages : ∀ {lexemes : List Lexeme} {messages : List BlockMessage}
    {locales : List LocaleBlock}, readMessages lexemes = .ok (messages, locales) →
      messages.map (·.key) ++ namesOf locales = words lexemes ∧
        ∀ name ∈ messages.map (·.key) ++ namesOf locales, isKeyword name = false
  | lexemes, messages, locales, h => by
      unfold readMessages at h
      split at h
      · rename_i delimiter rest
        split at h
        · rename_i others hlocales
          obtain ⟨rfl, rfl⟩ := Prod.mk.inj (Except.ok.inj h)
          simpa [Lexeme.word?] using names_of_readLocales hlocales
        · simp at h
      · rename_i key template rest
        split at h
        · simp at h
        · rename_i hkeyword
          split at h
          · simp at h
          · split at h
            · rename_i content _ read others hrest
              obtain ⟨rfl, rfl⟩ := Prod.mk.inj (Except.ok.inj h)
              obtain ⟨hnames, hkeywords⟩ := names_of_readMessages hrest
              rw [List.map_cons, List.cons_append, List.forall_mem_cons]
              exact ⟨by simp [hnames, Lexeme.word?], by simpa using hkeyword, hkeywords⟩
            · simp at h
      · simp at h

end

variable {source : String} {block : MessageBlock}

/-- The names of a block that is read are the words of its source. -/
theorem names_of_ofSource (h : ofSource source = .ok block) :
    ∃ lexemes, scan? source = some lexemes ∧ block.names = words lexemes ∧
      ∀ name ∈ block.names, isKeyword name = false := by
  unfold ofSource at h
  split at h
  · rename_i lexemes hscan
    cases hlocales : readLocales lexemes with
    | error fault => simp [hlocales, Except.map] at h
    | ok locales =>
        obtain rfl : { locales } = block := by simpa [hlocales, Except.map] using h
        obtain ⟨hnames, hkeywords⟩ := names_of_readLocales hlocales
        exact ⟨lexemes, hscan, hnames, hkeywords⟩
  · simp at h

/-- A name of a block is plain exactly if it has no mark. -/
theorem isPlainWord_iff_of_ofSource (h : ofSource source = .ok block) :
    ∀ name ∈ block.names, IsPlainWord name ↔ isRaw name = false := by
  obtain ⟨lexemes, hscan, hnames, -⟩ := names_of_ofSource h
  rw [hnames]
  exact isPlainWord_iff_of_scanAll _ lexemes (Option.filter_eq_some_iff.mp hscan).1

/-- The code of a block has the names of the block. -/
theorem names_code (block : MessageBlock) : block.code.names = block.names := by
  simp [BlockCode.names, code, names, LocaleBlock.functions, LocaleBlock.keys, List.flatMap_map,
    Function.comp_def]

/-- **A block that has code unless a name is raw.** -/
structure Expands (source : String) (block : MessageBlock) : Prop where
  /-- The names are the words of the source, in order. -/
  words : ∃ lexemes, scan? source = some lexemes ∧ block.names = words lexemes
  /-- None is a keyword, and the plain ones are those without the mark of raw words. -/
  names : ∀ name ∈ block.names,
    isKeyword name = false ∧ (IsPlainWord name ↔ isRaw name = false)
  /-- There is code exactly if all names are plain. -/
  compile_iff : (∃ lexemes, MessageBlock.compile source = .ok (block, lexemes))
    ↔ ∀ name ∈ block.names, IsPlainWord name
  /-- The first name that is not plain is what stops the compiler, and nothing else does. -/
  compile_error_iff : ∀ error, MessageBlock.compile source = .error error ↔
    ∃ name, block.names.find? (¬IsPlainWord ·) = some name ∧ error = .rawName name
  /-- Modules and functions in the code have the names of the block. -/
  code : ∀ lexemes, MessageBlock.compile source = .ok (block, lexemes) →
    ∃ code, BlockCode.ofLexemes? lexemes = some code ∧ code.names = block.names

/--
**A block that passes all checks has code exactly if each of its names is a plain word.**

An identifier that is written raw passes the checks, too, and keeps its mark in the name.  No
identifier can be made of it again.
-/
theorem expands (hsource : ofSource source = .ok block) (hconflicts : block.conflicts = []) :
    Expands source block := by
  have hplain := isPlainWord_iff_of_ofSource hsource
  obtain ⟨written, hscan, hnames, hkeywords⟩ := names_of_ofSource hsource
  have hfind : block.names.find? (¬IsPlainWord ·) = block.names.find? isRaw := by
    rw [← List.head?_filter, ← List.head?_filter]
    refine congrArg List.head? (List.filter_congr fun name hname => ?_)
    simp [hplain name hname]
  have hcompile : MessageBlock.compile source
      = (block.names.find? isRaw).elim (.ok (block, block.lexemes)) (.error <| .rawName ·) := by
    simp only [MessageBlock.compile, hsource, hconflicts, List.isEmpty_nil, if_true]
    cases block.names.find? isRaw with
    | none => rfl
    | some name => rfl
  constructor
  case words => exact ⟨written, hscan, hnames⟩
  case names => exact fun name hname => ⟨hkeywords name hname, hplain name hname⟩
  case compile_iff =>
    have hall : block.names.find? isRaw = none ↔ ∀ name ∈ block.names, IsPlainWord name := by
      rw [← hfind, List.find?_eq_none]
      simp
    rw [hcompile, ← hall]
    cases block.names.find? isRaw with
    | none => simp
    | some name => simp
  case compile_error_iff =>
    intro error
    rw [hcompile, hfind]
    cases block.names.find? isRaw with
    | none => simp
    | some name => simp [eq_comm]
  case code =>
    intro lexemes h
    obtain ⟨-, rfl⟩ := distinct_of_compile h
    exact ⟨block.code, BlockCode.ofLexemes?_lexemes block, names_code block⟩

/-- A locale with a raw name, and with a message whose name is plain. -/
theorem expands_raw :
    let content : Node := .sequence [.literal "Hi ", .placeholder "name"]
    let block : MessageBlock :=
      { locales := [{ locale := "r#type", messages := [{ key := "greeting", content }] }] }
    let source := "r#type \x7b greeting = \"Hi \x7bname\x7d\"; \x7d "
    ofSource source = .ok block ∧ block.conflicts = [] ∧ Expands source block := by
  intro content block source
  let written : WrittenBlock :=
    { locales := [{ locale := "r#type"
                    messages := [{ key := "greeting", template := "Hi \x7bname\x7d" }] }] }
  have hwords : ∀ name ∈ written.names, IsOneWord name := by decide
  have hscan : scan? source = some written.lexemes := by
    have hsource : written.source = source := by decide
    rw [← hsource]
    exact WrittenBlock.scan?_source hwords
  have hsource : ofSource source = .ok block := by
    rw [ofSource, hscan]
    rfl
  exact ⟨hsource, rfl, expands hsource rfl⟩

end MessageBlock

end MessageTemplate
