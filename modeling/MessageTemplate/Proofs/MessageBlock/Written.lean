/-
Blocks of messages as they are written.

A written block has templates where a block has trees.  Reading its lexemes parses the
templates one after the other and stops at the first that does not parse, and its error
is the fault of the block (`readLocales_lexemes`).  Nothing else can be wrong with a
written block, provided no name in it is a keyword.

Every block whose names are words can be written, whatever its templates are
(`WrittenBlock.scan?_source`).
-/
import MessageTemplate.MessageBlock.Expansion
import MessageTemplate.Proofs.Compiled.Lines
import Mathlib.Data.List.Forall2

namespace MessageTemplate

open Source

/-! ### Writing and reading -/

/-- A key and a template. -/
structure WrittenMessage where
  key : String
  template : String

namespace WrittenMessage

/-- The lexemes of a message. -/
def lexemes (message : WrittenMessage) : List Lexeme :=
  [.word message.key, .punct '=', .string message.template, .punct ';']

/-- The message with its template parsed. -/
def read (message : WrittenMessage) : Except ParseError BlockMessage :=
  (parse message.template).map fun content => { key := message.key, content }

end WrittenMessage

/-- A locale with its messages. -/
structure WrittenLocale where
  locale : String
  messages : List WrittenMessage

namespace WrittenLocale

/-- The lexemes of a locale with its messages. -/
def lexemes (block : WrittenLocale) : List Lexeme :=
  .word block.locale :: group .brace (block.messages.flatMap WrittenMessage.lexemes)

/-- The locale with its templates parsed, up to the first that does not parse. -/
def read (block : WrittenLocale) : Except ParseError LocaleBlock :=
  (block.messages.mapM WrittenMessage.read).map fun messages =>
    { locale := block.locale, messages }

/-- The names of a locale and its messages. -/
def names (block : WrittenLocale) : List String :=
  block.locale :: block.messages.map (·.key)

end WrittenLocale

/-- A block as it is written. -/
structure WrittenBlock where
  locales : List WrittenLocale

namespace WrittenBlock

/-- The lexemes of a block. -/
def lexemes (block : WrittenBlock) : List Lexeme :=
  block.locales.flatMap WrittenLocale.lexemes

/-- The block with its templates parsed, up to the first that does not parse. -/
def read (block : WrittenBlock) : Except ParseError MessageBlock :=
  (block.locales.mapM WrittenLocale.read).map fun locales => { locales }

/-- The names that a block gives to locales and messages. -/
def names (block : WrittenBlock) : List String :=
  block.locales.flatMap WrittenLocale.names

/-- The templates of a block, in order. -/
def templates (block : WrittenBlock) : List String :=
  block.locales.flatMap fun locale => locale.messages.map (·.template)

end WrittenBlock

namespace MessageBlock

/-- The messages of a locale are read one by one, and then the other locales. -/
theorem readMessages_lexemes {messages : List WrittenMessage}
    (names : ∀ message ∈ messages, isKeyword message.key = false) (rest : List Lexeme) :
    readMessages (messages.flatMap WrittenMessage.lexemes ++ .closing .brace :: rest)
      = match messages.mapM WrittenMessage.read with
        | .error error => .error (.template error)
        | .ok read => (readLocales rest).map fun locales => (read, locales) := by
  induction messages with
  | nil =>
      simp only [List.flatMap_nil, List.nil_append, readMessages, List.mapM_nil]
      cases readLocales rest <;> rfl
  | cons message messages ih =>
      have hkey := names message (by simp)
      have hrest := ih fun other hother => names other (List.mem_cons_of_mem _ hother)
      simp only [List.flatMap_cons, WrittenMessage.lexemes, List.cons_append, List.nil_append,
        readMessages, hkey, Bool.false_eq_true, if_false, List.mapM_cons, WrittenMessage.read]
      cases parse message.template with
      | error error => rfl
      | ok content =>
          simp only [hrest]
          cases messages.mapM WrittenMessage.read with
          | error error => rfl
          | ok read => cases readLocales rest <;> rfl

/-- **A written block is read as its templates are parsed.** -/
theorem readLocales_lexemes {locales : List WrittenLocale}
    (names : ∀ name ∈ locales.flatMap WrittenLocale.names, isKeyword name = false) :
    readLocales (locales.flatMap WrittenLocale.lexemes)
      = (locales.mapM WrittenLocale.read).mapError .template := by
  induction locales with
  | nil => simp [readLocales, Except.mapError, pure, Except.pure]
  | cons block locales ih =>
      have hblock : ∀ name ∈ block.names, isKeyword name = false :=
        fun name hname => names name (List.mem_append_left _ hname)
      have hlocale := hblock block.locale (by simp [WrittenLocale.names])
      have hkeys : ∀ message ∈ block.messages, isKeyword message.key = false :=
        fun message hmessage => hblock _ (List.mem_cons_of_mem _ (List.mem_map_of_mem hmessage))
      have hrest := ih fun name hname => names name (List.mem_append_right _ hname)
      simp only [List.flatMap_cons, WrittenLocale.lexemes, group, List.cons_append,
        List.append_assoc, List.nil_append, readLocales, hlocale, Bool.false_eq_true, if_false,
        readMessages_lexemes hkeys, List.mapM_cons, WrittenLocale.read]
      cases block.messages.mapM WrittenMessage.read with
      | error error => rfl
      | ok messages =>
          simp only [hrest]
          cases locales.mapM WrittenLocale.read <;> rfl

end MessageBlock

/-! ### Templates that do not parse -/

/-- Why a template does not parse. -/
def parseFault? (template : String) : Option ParseError :=
  match parse template with
  | .ok _ => none
  | .error error => some error

theorem forall₂_of_mapM {α β ε : Type} {f : α → Except ε β} {list : List α} {results : List β}
    (h : list.mapM f = .ok results) : List.Forall₂ (fun a b => f a = .ok b) list results := by
  induction list generalizing results with
  | nil =>
      obtain rfl : [] = results := by simpa [pure, Except.pure] using h
      exact List.Forall₂.nil
  | cons a list ih =>
      rw [List.mapM_cons] at h
      cases ha : f a with
      | error error => simp [ha, bind, Except.bind] at h
      | ok b =>
          cases hlist : list.mapM f with
          | error error => simp [ha, hlist, bind, Except.bind] at h
          | ok rest =>
              obtain rfl : b :: rest = results := by
                simpa [ha, hlist, bind, Except.bind, pure, Except.pure] using h
              exact List.Forall₂.cons ha (ih hlist)

/-- A walk through a list stops at the first error, which `error?` finds in each item. -/
theorem mapM_eq_error_iff {α β ε : Type} {f : α → Except ε β} {error? : α → Option ε}
    (item : ∀ a e, f a = .error e ↔ error? a = some e) {list : List α} {e : ε} :
    list.mapM f = .error e ↔ list.findSome? error? = some e := by
  induction list with
  | nil => simp [pure, Except.pure]
  | cons a list ih =>
      rw [List.mapM_cons, List.findSome?_cons]
      cases ha : f a with
      | error error =>
          rw [(item a error).mp ha]
          simp [bind, Except.bind]
      | ok b =>
          have hnone : error? a = none := by
            rw [Option.eq_none_iff_forall_ne_some]
            intro error herror
            rw [(item a error).mpr herror] at ha
            simp at ha
          rw [hnone, ← ih]
          cases list.mapM f with
          | error error => simp [bind, Except.bind]
          | ok rest => simp [bind, Except.bind, pure, Except.pure]

theorem map_eq_error_iff {α β ε : Type} (f : α → β) {result : Except ε α} {e : ε} :
    result.map f = .error e ↔ result = .error e := by
  cases result <;> simp [Except.map]

/-- A message that is read has its key and the tree of its template. -/
theorem WrittenMessage.exists_of_read (message : WrittenMessage) {read : BlockMessage}
    (h : message.read = .ok read) :
    ∃ node, parse message.template = .ok node ∧ read = { key := message.key, content := node } := by
  unfold WrittenMessage.read at h
  cases hparse : parse message.template with
  | error error => simp [hparse, Except.map] at h
  | ok node =>
      simp only [hparse, Except.map, Except.ok.injEq] at h
      exact ⟨node, rfl, h.symm⟩

theorem WrittenMessage.read_eq_error_iff (message : WrittenMessage) (error : ParseError) :
    message.read = .error error ↔ parseFault? message.template = some error := by
  unfold WrittenMessage.read parseFault?
  cases parse message.template <;> simp [Except.map]

theorem WrittenLocale.read_eq_error_iff (block : WrittenLocale) (error : ParseError) :
    block.read = .error error
      ↔ (block.messages.map (·.template)).findSome? parseFault? = some error := by
  rw [WrittenLocale.read, map_eq_error_iff, List.findSome?_map]
  exact mapM_eq_error_iff WrittenMessage.read_eq_error_iff

namespace WrittenBlock

/-- **A block is refused for its first template that does not parse.** -/
theorem read_eq_error_iff (block : WrittenBlock) (error : ParseError) :
    block.read = .error error ↔ block.templates.findSome? parseFault? = some error := by
  rw [WrittenBlock.read, map_eq_error_iff, mapM_eq_error_iff WrittenLocale.read_eq_error_iff,
    templates]
  induction block.locales with
  | nil => rfl
  | cons locale locales ih =>
      rw [List.findSome?_cons, List.flatMap_cons, List.findSome?_append]
      cases (locale.messages.map (·.template)).findSome? parseFault? with
      | none => simpa using ih
      | some fault => simp

/-- A block whose templates parse is read. -/
theorem exists_read {block : WrittenBlock}
    (h : ∀ template ∈ block.templates, ∃ node, parse template = .ok node) :
    ∃ read, block.read = .ok read := by
  cases hread : block.read with
  | ok read => exact ⟨read, rfl⟩
  | error error =>
      rw [read_eq_error_iff] at hread
      obtain ⟨template, hmem, hfault⟩ := List.exists_of_findSome?_eq_some hread
      obtain ⟨node, hnode⟩ := h template hmem
      simp [parseFault?, hnode] at hfault

/-- The templates before one that does not parse do not matter if they do. -/
theorem read_eq_error {block : WrittenBlock} {before after : List String} {template : String}
    {error : ParseError} (htemplates : block.templates = before ++ template :: after)
    (hbefore : ∀ other ∈ before, ∃ node, parse other = .ok node)
    (hparse : parse template = .error error) : block.read = .error error := by
  rw [read_eq_error_iff, htemplates, List.findSome?_append]
  have hnone : before.findSome? parseFault? = none := by
    rw [List.findSome?_eq_none_iff]
    intro other hother
    obtain ⟨node, hnode⟩ := hbefore other hother
    simp [parseFault?, hnode]
  have hfault : parseFault? template = some error := by simp [parseFault?, hparse]
  rw [hnone, List.findSome?_cons, hfault]
  rfl

/-- What a read locale has in common with the written one. -/
structure Same (written : WrittenLocale) (block : LocaleBlock) : Prop where
  locale : block.locale = written.locale
  messages : List.Forall₂ (fun message read => message.read = .ok read) written.messages
    block.messages

theorem same_of_read {written : WrittenLocale} {block : LocaleBlock}
    (h : written.read = .ok block) : Same written block := by
  unfold WrittenLocale.read at h
  cases hmessages : written.messages.mapM WrittenMessage.read with
  | error error => simp [hmessages, Except.map] at h
  | ok messages =>
      obtain rfl : { locale := written.locale, messages } = block := by
        simpa [hmessages, Except.map] using h
      exact ⟨rfl, forall₂_of_mapM hmessages⟩

theorem forall₂_same_of_read {block : WrittenBlock} {read : MessageBlock}
    (h : block.read = .ok read) : List.Forall₂ Same block.locales read.locales := by
  unfold WrittenBlock.read at h
  cases hlocales : block.locales.mapM WrittenLocale.read with
  | error error => simp [hlocales, Except.map] at h
  | ok locales =>
      obtain rfl : { locales } = read := by simpa [hlocales, Except.map] using h
      exact (forall₂_of_mapM hlocales).imp fun _ _ => same_of_read

end WrittenBlock

/-! ### Source of a block -/

/-- Source of a message. -/
def WrittenMessage.source (message : WrittenMessage) : String :=
  message.key ++ " = " ++ SourceStyle.literal message.template ++ "; "

/-- Source of a locale with its messages. -/
def WrittenLocale.source (block : WrittenLocale) : String :=
  block.locale ++ " \x7b " ++ String.join (block.messages.map WrittenMessage.source) ++ "\x7d "

/-- Source of a block. -/
def WrittenBlock.source (block : WrittenBlock) : String :=
  String.join (block.locales.map WrittenLocale.source)

/-- Texts in a row are spelled if each of them is. -/
theorem scansTo_join {α : Type} {source : α → String} {lexemes : α → List Lexeme} {list : List α}
    (h : ∀ a ∈ list, ScansTo (source a).toList (lexemes a)) :
    ScansTo (String.join (list.map source)).toList (list.flatMap lexemes) := by
  induction list with
  | nil => exact ScansTo.nil
  | cons a list ih =>
      have hrest := ih fun b hb => h b (List.mem_cons_of_mem _ hb)
      have hwhole := (h a (by simp)).append hrest
      simpa using hwhole

theorem WrittenMessage.scansTo {message : WrittenMessage} (h : IsOneWord message.key) :
    ScansTo message.source.toList message.lexemes := by
  have hend := ScansTo.nil.fixed "; " [.punct ';'] rfl
  have hwhole := ((hend.string message.template rfl).fixed " = " [.punct '='] rfl).word h rfl
  simpa [source, lexemes, SourceStyle.literal_toList] using hwhole

theorem WrittenLocale.scansTo {block : WrittenLocale} (h : ∀ name ∈ block.names, IsOneWord name) :
    ScansTo block.source.toList block.lexemes := by
  rw [names, List.forall_mem_cons, List.forall_mem_map] at h
  have hmessages := scansTo_join fun message hmessage =>
    WrittenMessage.scansTo (h.2 message hmessage)
  have hend := ScansTo.nil.fixed "\x7d " [.closing .brace] rfl
  have hwhole := ((hmessages.append hend).fixed " \x7b " [.opening .brace] rfl).word h.1 rfl
  simpa [source, lexemes, group] using hwhole

theorem WrittenBlock.lexemes_neutral (block : WrittenBlock) : IsNeutral block.lexemes := by
  refine IsNeutral.flatMap fun locale _ => ?_
  have hname : IsNeutral [.word locale.locale] := IsNeutral.plain rfl
  refine hname.append (IsNeutral.group .brace (IsNeutral.flatMap fun message _ => ?_))
  exact IsNeutral.plain rfl

/-- **A block can be written if its names are words.** -/
theorem WrittenBlock.scan?_source {block : WrittenBlock}
    (h : ∀ name ∈ block.names, IsOneWord name) :
    scan? block.source = some block.lexemes := by
  have hlocales : ∀ locale ∈ block.locales, ∀ name ∈ locale.names, IsOneWord name :=
    fun locale hlocale name hname => h name (List.mem_flatMap.mpr ⟨locale, hlocale, hname⟩)
  have hscans := scansTo_join fun locale hlocale => WrittenLocale.scansTo (hlocales locale hlocale)
  have hscan := hscans.scan []
  refine scan?_eq ?_ block.lexemes_neutral
  simpa [source, lexemes] using hscan

end MessageTemplate
