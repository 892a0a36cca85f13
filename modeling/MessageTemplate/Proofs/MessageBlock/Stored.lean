/-
A message behaves the same however it is stored.

There are four ways to a text: a template is interpreted, or it is loaded into a catalog
as text or as a tree, or it is a message of a block and registered as text or as a
compiled function.  A template that parses is taken everywhere, and all ways agree
(`StoredAlike`); one that does not parse is refused everywhere for the same reason, and
nothing else happens (`RefusedAlike`).

What a block registers is looked up in the catalog of the block, which is what its code
gives when it is read back and run.  A template comes there by being written somewhere in
the block, among other messages, under any names that can be given.  Every template can be
written so (`exists_isIn`).
-/
import MessageTemplate.Proofs.Catalog.Session
import MessageTemplate.Proofs.MessageBlock.Running
import MessageTemplate.Proofs.MessageBlock.Written
import MessageTemplate.Proofs.Storage
import Mathlib.Data.List.Infix

namespace MessageTemplate

open Source

/-! ### The block that is read -/

theorem map_eq_map_of_forall₂ {α β γ : Type} {r : α → β → Prop} {f : α → γ} {g : β → γ}
    (image : ∀ a b, r a b → g b = f a) {list : List α} {list' : List β}
    (h : List.Forall₂ r list list') : list'.map g = list.map f := by
  induction h with
  | nil => rfl
  | cons hab _ ih => rw [List.map_cons, List.map_cons, image _ _ hab, ih]

theorem exists_mem_of_forall₂ {α β : Type} {r : α → β → Prop} {list : List α} {list' : List β}
    (h : List.Forall₂ r list list') {a : α} (ha : a ∈ list) : ∃ b ∈ list', r a b := by
  induction h with
  | nil => simp at ha
  | @cons first first' rest rest' hfirst _ ih =>
      rcases List.mem_cons.mp ha with rfl | hrest
      · exact ⟨first', by simp, hfirst⟩
      · obtain ⟨b, hb, hr⟩ := ih hrest
        exact ⟨b, List.mem_cons_of_mem _ hb, hr⟩

namespace WrittenBlock

/-- **Names that a block may give**: no keyword and no raw name, and none twice in its
place. -/
structure WellNamed (block : WrittenBlock) : Prop where
  notKeyword : ∀ name ∈ block.names, isKeyword name = false
  notRaw : ∀ name ∈ block.names, isRaw name = false
  locales : (block.locales.map (·.locale)).Nodup
  keys : ∀ locale ∈ block.locales, (locale.messages.map (·.key)).Nodup

/-- **Source in which a block is written**, with names that it may give. -/
structure IsIn (block : WrittenBlock) (source : String) : Prop where
  scanned : scan? source = some block.lexemes
  named : block.WellNamed

/-- Every template can be written in a block. -/
theorem exists_isIn (template : String) :
    ∃ (block : WrittenBlock) (source : String),
      block.IsIn source ∧ block.templates = [template] := by
  let block : WrittenBlock :=
    { locales := [{ locale := "en", messages := [{ key := "greeting", template }] }] }
  have hnames : block.names = ["en", "greeting"] := rfl
  have hwords : ∀ name ∈ block.names, IsOneWord name := by
    rw [hnames]
    decide
  refine ⟨block, block.source, ⟨scan?_source hwords, ?_, ?_, ?_, ?_⟩, rfl⟩
  · rw [hnames]
    decide
  · rw [hnames]
    simp [isRaw]
  · simp [block]
  · simp [block]

variable {written : WrittenBlock} {block : MessageBlock}

theorem Same.keys {locale : WrittenLocale} {messages : LocaleBlock}
    (h : Same locale messages) : messages.keys = locale.messages.map (·.key) := by
  refine map_eq_map_of_forall₂ (fun message read hread => ?_) h.messages
  obtain ⟨_, -, rfl⟩ := message.exists_of_read hread
  rfl

/-- A block that is read has the names that are written. -/
theorem names_of_read (h : written.read = .ok block) : block.names = written.names := by
  have hnames : block.locales.map (fun messages => messages.locale :: messages.keys)
      = written.locales.map WrittenLocale.names :=
    map_eq_map_of_forall₂ (fun locale messages same => by
      rw [same.locale, same.keys, WrittenLocale.names]) (forall₂_same_of_read h)
  rw [MessageBlock.names, WrittenBlock.names, List.flatMap_def, List.flatMap_def, hnames]

/-- A block that is read gives no name twice if no name is written twice. -/
theorem distinct_of_read (h : written.read = .ok block) (named : written.WellNamed) :
    block.Distinct where
  locales := by
    have hlocales : block.locales.map (·.locale) = written.locales.map (·.locale) :=
      map_eq_map_of_forall₂ (fun _ _ same => same.locale) (forall₂_same_of_read h)
    rw [hlocales]
    exact named.locales
  keys := by
    intro messages hmessages
    obtain ⟨locale, hlocale, same⟩ :=
      exists_mem_of_forall₂ (forall₂_same_of_read h).flip hmessages
    rw [same.keys]
    exact named.keys locale hlocale

/-- A written message is read in the place where it is written. -/
theorem mem_of_read (h : written.read = .ok block) {locale : WrittenLocale}
    (hlocale : locale ∈ written.locales) {message : WrittenMessage}
    (hmessage : message ∈ locale.messages) {node : Node}
    (hparse : parse message.template = .ok node) :
    ∃ messages ∈ block.locales, messages.locale = locale.locale ∧
      { key := message.key, content := node } ∈ messages.messages := by
  obtain ⟨messages, hmessages, same⟩ := exists_mem_of_forall₂ (forall₂_same_of_read h) hlocale
  obtain ⟨read, hmem, hread⟩ := exists_mem_of_forall₂ same.messages hmessage
  obtain ⟨node', hnode', rfl⟩ := message.exists_of_read hread
  obtain rfl : node = node' := Except.ok.inj (hparse.symm.trans hnode')
  exact ⟨messages, hmessages, same.locale, hmem⟩

variable {source : String} (scanned : scan? source = some written.lexemes)

include scanned

/-- Source is read as the block that is written in it. -/
theorem ofSource_eq (notKeyword : ∀ name ∈ written.names, isKeyword name = false) :
    MessageBlock.ofSource source = written.read.mapError .template := by
  rw [MessageBlock.ofSource, scanned]
  simp only [WrittenBlock.lexemes, MessageBlock.readLocales_lexemes notKeyword, WrittenBlock.read]
  cases written.locales.mapM WrittenLocale.read <;> rfl

/-- A block with good names and templates that parse has code. -/
theorem compile_of_read (named : written.WellNamed) (h : written.read = .ok block) :
    MessageBlock.compile source = .ok (block, block.lexemes) := by
  have hsource : MessageBlock.ofSource source = .ok block := by
    rw [ofSource_eq scanned named.notKeyword, h]
    rfl
  have hnotRaw : ∀ name ∈ block.names, isRaw name = false := by
    rw [names_of_read h]
    exact named.notRaw
  exact (distinct_of_read h named).compile hnotRaw hsource

/-- A block is refused for its first template that does not parse. -/
theorem compile_of_error (notKeyword : ∀ name ∈ written.names, isKeyword name = false)
    {error : ParseError} (h : written.read = .error error) :
    MessageBlock.compile source = .error (.unreadable (.template error)) := by
  have hsource : MessageBlock.ofSource source = .error (.template error) := by
    rw [ofSource_eq scanned notKeyword, h]
    rfl
  simp only [MessageBlock.compile, hsource]

end WrittenBlock

/-! ### The code of a block -/

namespace MessageBlock

theorem infix_flatMap {α β : Type} (f : α → List β) {list : List α} {a : α} (h : a ∈ list) :
    f a <:+: list.flatMap f := by
  obtain ⟨before, after, rfl⟩ := List.append_of_mem h
  exact ⟨before.flatMap f, after.flatMap f, by simp⟩

theorem infix_group (delimiter : Delimiter) (lexemes : List Lexeme) :
    lexemes <:+: group delimiter lexemes :=
  ⟨[.opening delimiter], [.closing delimiter], by simp [group]⟩

variable {block : MessageBlock} {messages : LocaleBlock} {message : BlockMessage}

/-- The code of a block has the function for each message. -/
theorem messageLexemes_infix (hmessages : messages ∈ block.locales)
    (hmessage : message ∈ messages.messages) :
    messageLexemes messages.locale message <:+: block.lexemes := by
  have hmodule : messageLexemes messages.locale message <:+: localeLexemes messages := by
    have hbody := (infix_flatMap (messageLexemes messages.locale) hmessage).trans
      (infix_group .brace _)
    exact hbody.trans (List.suffix_append _ _).isInfix
  have hmodules := hmodule.trans (infix_flatMap localeLexemes hmessages)
  exact hmodules.trans (List.prefix_append _ _).isInfix

/-- The code of a block has the insertion for each message. -/
theorem insertionLexemes_infix (hmessages : messages ∈ block.locales)
    (hmessage : message ∈ messages.messages) :
    insertionLexemes messages.locale message <:+: block.lexemes := by
  have hsome : block.locales.all (·.messages.isEmpty) = false := by
    rw [List.all_eq_false]
    exact ⟨messages, hmessages, by simpa using List.ne_nil_of_mem hmessage⟩
  have hbody : insertionLexemes messages.locale message <:+: block.catalogBody := by
    have hinsertions := (infix_flatMap _ hmessage).trans (infix_flatMap localeInsertions hmessages)
    rw [catalogBody, hsome]
    exact hinsertions.trans ⟨_, _, rfl⟩
  have hfunction := hbody.trans (infix_group .brace _)
  exact (hfunction.trans ⟨_, [], List.append_nil _⟩).trans (List.suffix_append _ _).isInfix

end MessageBlock

/-! ### Every way to a text -/

/-- **A template that parses is taken everywhere and does the same everywhere.** -/
structure StoredAlike (template : String) (node : Node) : Prop where
  /-- A catalog takes it in. -/
  inserted : ∀ (catalog : Catalog) (locale key : String),
    ∃ after, catalog.loadTemplate locale key template = (.ok (catalog.get? locale key), after) ∧
      catalog.insertTemplate locale key template = .ok (catalog.get? locale key, after) ∧
      after.get? locale key = some (Entry.ofNode node)
  /-- A block takes it in wherever it is written, with code for it, and registers it: the code
  is read back from its lexemes and run, and the entry is in the catalog at the end. -/
  registered : ∀ (source : String) (written : WrittenBlock), written.IsIn source →
    (∀ other ∈ written.templates, ∃ tree, parse other = .ok tree) →
    ∃ block, MessageBlock.compile source = .ok (block, block.lexemes) ∧
      (∃ code done, BlockCode.ofLexemes? block.lexemes = some code ∧
        code.runCatalog? = some (done, block.catalog)) ∧
      ∀ locale ∈ written.locales, ∀ message ∈ locale.messages, message.template = template →
        let stored : BlockMessage := { key := message.key, content := node }
        MessageBlock.messageLexemes locale.locale stored <:+: block.lexemes ∧
          MessageBlock.insertionLexemes locale.locale stored <:+: block.lexemes ∧
          block.catalog.get? locale.locale message.key = some stored.entry
  /-- Either both store text, and the same text, or neither does. -/
  sameText : ∀ key text : String, Entry.ofNode node = .text text
    ↔ ({ key, content := node } : BlockMessage).entry = .text text
  /-- The entry of the catalog says and reports what interpreting does. -/
  rendered : ∀ {σ : Type} (sink : Sink σ) (values : Values),
    (Entry.ofNode node).render sink values = interpret sink values template
  /-- The entry of the block does, too. -/
  compiled : ∀ {σ : Type} (sink : Sink σ) (values : Values) (key : String),
    ({ key, content := node } : BlockMessage).entry.render sink values
      = interpret sink values template

/-- **A template that does not parse is refused everywhere for the same reason.** -/
structure RefusedAlike (template : String) (error : ParseError) : Prop where
  /-- A catalog refuses it and stays as it is. -/
  inserted : ∀ (catalog : Catalog) (locale key : String),
    catalog.loadTemplate locale key template
        = (.error { locale, key, cause := error }, catalog) ∧
      catalog.insertTemplate locale key template = .error { locale, key, cause := error }
  /-- Nor does any other catalog or a translator change then. -/
  unchanged : ∀ (session : Session) (n : Nat) (locale key : String),
    (session.perform (.insertTemplate n locale key template)).2 = session
  /-- A block is refused for it if nothing before it is wrong, and the message is that of
  the error. -/
  rejected : ∀ (source : String) (written : WrittenBlock) (before after : List String),
    scan? source = some written.lexemes →
    (∀ name ∈ written.names, isKeyword name = false) →
    written.templates = before ++ template :: after →
    (∀ other ∈ before, ∃ tree, parse other = .ok tree) →
    ∃ fault, MessageBlock.compile source = .error (.unreadable fault) ∧
      fault.message = "invalid template: " ++ error.message
  /-- Interpreting reports it once and gives the template back. -/
  interpreted : ∀ {σ : Type} (sink : Sink σ) (values : Values) (state : σ),
    (interpret sink values template).run state
      = (template, sink.report (.invalidTemplate template error) state)

theorem interpret_of_parse {template : String} {node : Node} (h : parse template = .ok node)
    {σ : Type} (sink : Sink σ) (values : Values) :
    interpret sink values template = node.render sink values := by
  unfold interpret
  rw [h]

theorem storedAlike_of_parse {template : String} {node : Node}
    (h : parse template = .ok node) : StoredAlike template node where
  inserted := by
    intro catalog locale key
    have hload := Catalog.loadTemplate_of_ok h catalog locale key
    refine ⟨(catalog.insert locale key (Entry.ofNode node)).2, hload, ?_, ?_⟩
    · rw [Catalog.insertTemplate, hload]
      rfl
    · rw [Catalog.get?_insert, if_pos ⟨rfl, rfl⟩]
  registered := by
    rintro source written ⟨scanned, named⟩ hparse
    obtain ⟨block, hread⟩ := WrittenBlock.exists_read hparse
    have distinct := WrittenBlock.distinct_of_read hread named
    refine ⟨block, WrittenBlock.compile_of_read scanned named hread,
      ⟨block.code, _, BlockCode.ofLexemes?_lexemes block, distinct.runCatalog?⟩, ?_⟩
    rintro locale hlocale message hmessage rfl
    obtain ⟨messages, hmessages, hname, hmem⟩ :=
      WrittenBlock.mem_of_read hread hlocale hmessage h
    rw [← hname]
    refine ⟨MessageBlock.messageLexemes_infix hmessages hmem,
      MessageBlock.insertionLexemes_infix hmessages hmem, ?_⟩
    exact distinct.catalog_get? hmessages hmem
  sameText := by
    intro key text
    rw [Entry.ofNode_eq_text_iff, BlockMessage.entry_eq_text_iff]
  rendered := by
    intro σ sink values
    rw [interpret_of_parse h, Entry.ofNode_render]
  compiled := by
    intro σ sink values key
    rw [interpret_of_parse h, BlockMessage.entry_render]

theorem refusedAlike_of_parse {template : String} {error : ParseError}
    (h : parse template = .error error) : RefusedAlike template error where
  inserted := by
    intro catalog locale key
    have hload := Catalog.loadTemplate_of_error h catalog locale key
    refine ⟨hload, ?_⟩
    rw [Catalog.insertTemplate, hload]
    rfl
  unchanged := by
    intro session n locale key
    simp only [Session.perform, Catalog.loadTemplate_of_error h, Session.setCatalog_self]
  rejected := by
    intro source written before after scanned notKeyword htemplates hbefore
    have hread := WrittenBlock.read_eq_error htemplates hbefore h
    exact ⟨.template error, WrittenBlock.compile_of_error scanned notKeyword hread, rfl⟩
  interpreted := by
    intro σ sink values state
    unfold interpret
    rw [h]
    rfl

/--
**A message behaves the same however it is stored.**

The equations are between computations, so they cover every state of the sink.  That the
template can be written in a block is said first, since what a block does with it would
say nothing otherwise.
-/
theorem stored_alike (template : String) :
    (∃ (written : WrittenBlock) (source : String),
      written.IsIn source ∧ written.templates = [template]) ∧
      match parse template with
      | .ok node => StoredAlike template node
      | .error error => RefusedAlike template error := by
  refine ⟨WrittenBlock.exists_isIn template, ?_⟩
  cases h : parse template with
  | ok node => exact storedAlike_of_parse h
  | error error => exact refusedAlike_of_parse h

end MessageTemplate
