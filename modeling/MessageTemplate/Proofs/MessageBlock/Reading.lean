/-
The code of a block is read back from its lexemes.

The code has a module for each locale with a function for each message, and at the end the
function that gives the catalog, which is a list of insertions.  The reader takes names as they
come and passes over documentation.  Bodies of functions are read as expressions, and a path is
read to its end before it is compared with anything, as in expressions.

Each reader gives back what it reads from the lexemes of one thing and anything after them, so
the lemmas are put together as the code is (`BlockCode.ofLexemes?_lexemes`).
-/
import MessageTemplate.MessageBlock.Expansion
import MessageTemplate.Proofs.Compiled.Reading
import MessageTemplate.Proofs.Compiled.Uses

namespace MessageTemplate

open Source
open Code (after splitPath)

/-! ### The code of a block -/

/-- What an insertion puts into a catalog: a text, or a function by its path. -/
inductive EntryCode where
  | text (text : String)
  | function (module name : String)

/-- A statement that inserts an entry into the catalog. -/
structure InsertionCode where
  locale : String
  key : String
  entry : EntryCode

/-- The code of a block: the functions of its modules by their names, and the insertions of the
function that gives the catalog. -/
structure BlockCode where
  modules : List (String × List (String × CompiledFunction))
  insertions : List InsertionCode

/-- What the insertion of a message puts into the catalog. -/
def BlockMessage.entryCode (locale : String) (message : BlockMessage) : EntryCode :=
  match message.content.literalText with
  | some text => .text text
  | none => .function locale message.key

namespace LocaleBlock

/-- The functions of a locale. -/
def functions (block : LocaleBlock) : List (String × CompiledFunction) :=
  block.messages.map fun message => (message.key, CompiledFunction.ofNode message.content)

/-- The insertions of a locale. -/
def insertionCodes (block : LocaleBlock) : List InsertionCode :=
  block.messages.map fun message =>
    { locale := block.locale, key := message.key, entry := message.entryCode block.locale }

end LocaleBlock

/-- The code of a block, as it is meant. -/
def MessageBlock.code (block : MessageBlock) : BlockCode where
  modules := block.locales.map fun messages => (messages.locale, messages.functions)
  insertions := block.locales.flatMap LocaleBlock.insertionCodes

open MessageBlock (libraryItem newCatalog)

/-- The lexemes of what an insertion puts into the catalog. -/
def EntryCode.lexemes : EntryCode → List Lexeme
  | text t =>
    libraryItem ["TranslationEntry", "Text"] ++ group .parenthesis
      (path ["std", "borrow", "Cow", "Borrowed"] ++ group .parenthesis [.string t])
  | function module name =>
    libraryItem ["TranslationEntry", "Function"] ++ group .parenthesis
      (.word module :: path [name])

/-- The lexemes of an insertion. -/
def InsertionCode.lexemes (insertion : InsertionCode) : List Lexeme :=
  [.word "catalog", .punct '.', .word "insert"] ++ group .parenthesis
    (separated [[.string insertion.locale], [.string insertion.key], insertion.entry.lexemes]) ++
    [.punct ';']

/-- The insertions of a block are those of its code. -/
theorem LocaleBlock.insertionCodes_lexemes (block : LocaleBlock) :
    MessageBlock.localeInsertions block = block.insertionCodes.flatMap InsertionCode.lexemes := by
  rw [MessageBlock.localeInsertions, insertionCodes, List.flatMap_map]
  refine List.flatMap_congr fun message _ => ?_
  rw [MessageBlock.insertionLexemes, MessageBlock.entryLexemes, InsertionCode.lexemes,
    BlockMessage.entryCode]
  cases message.content.literalText <;> rfl

/-! ### The reader -/

namespace BlockCode

/-- Passes over the documentation of an item. -/
def readDocumentation : List Lexeme → Option (List Lexeme)
  | .punct '#' :: .opening .bracket :: .word "doc" :: .punct '=' :: .string _ ::
      .closing .bracket :: rest => some rest
  | _ => none

/-- Reads the name of a function and of its two parameters, up to its body. -/
def readSignature : List Lexeme → Option ((String × String × String) × List Lexeme)
  | .word "pub" :: .word "fn" :: .word name :: .opening .parenthesis :: .word values :: rest => do
    let rest ← after ([.punct ':', .punct '&'] ++ libraryItem ["Values"] ++ [.punct ',']) rest
    match rest with
    | .word sink :: rest => do
      let rest ← after ([.punct ':', .punct '&', .word "mut", .word "dyn"] ++
        libraryItem ["DiagnosticSink"] ++ [.punct ',', .closing .parenthesis, .punct '-',
        .punct '>'] ++ path ["std", "string", "String"] ++ [.opening .brace]) rest
      return ((name, values, sink), rest)
    | _ => none
  | _ => none

/-- Reads the function for a message. -/
def readFunction (lexemes : List Lexeme) : Option ((String × CompiledFunction) × List Lexeme) := do
  let rest ← readDocumentation lexemes
  let ((name, values, sink), rest) ← readSignature rest
  let (body, rest) ← Code.readExpression (libraryItem ["runtime"]) (rest.length + 1) rest
  let rest ← after [.closing .brace] rest
  return ((name, { values, sink, body }), rest)

/-- Reads functions and the brace after them. -/
def readFunctions : Nat → List Lexeme → Option (List (String × CompiledFunction) × List Lexeme)
  | 0, _ => none
  | _ + 1, .closing .brace :: rest => some ([], rest)
  | budget + 1, lexemes => do
    let (function, rest) ← readFunction lexemes
    let (functions, rest) ← readFunctions budget rest
    return (function :: functions, rest)

/-- Reads the module for a locale. -/
def readModule (lexemes : List Lexeme) :
    Option ((String × List (String × CompiledFunction)) × List Lexeme) := do
  let rest ← readDocumentation lexemes
  match rest with
  | .word "pub" :: .word "mod" :: .word name :: .opening .brace :: rest => do
    let (functions, rest) ← readFunctions (rest.length + 1) rest
    return ((name, functions), rest)
  | _ => none

/-- Reads what an insertion puts into the catalog. -/
def readEntry (lexemes : List Lexeme) : Option (EntryCode × List Lexeme) :=
  let (head, rest) := splitPath lexemes
  if head = libraryItem ["TranslationEntry", "Text"] then do
    let rest ← after ([.opening .parenthesis] ++ path ["std", "borrow", "Cow", "Borrowed"] ++
      [.opening .parenthesis]) rest
    match rest with
    | .string text :: .closing .parenthesis :: .closing .parenthesis :: rest =>
      some (.text text, rest)
    | _ => none
  else if head = libraryItem ["TranslationEntry", "Function"] then
    match rest with
    | .opening .parenthesis :: .word module :: .punct ':' :: .punct ':' :: .word name ::
        .closing .parenthesis :: rest => some (.function module name, rest)
    | _ => none
  else none

/-- Reads an insertion. -/
def readInsertion : List Lexeme → Option (InsertionCode × List Lexeme)
  | .word "catalog" :: .punct '.' :: .word "insert" :: .opening .parenthesis ::
      .string locale :: .punct ',' :: .string key :: .punct ',' :: lexemes => do
    let (entry, rest) ← readEntry lexemes
    let rest ← after [.closing .parenthesis, .punct ';'] rest
    return ({ locale, key, entry }, rest)
  | _ => none

/-- Reads insertions, the catalog as the result and the brace after it. -/
def readInsertions : Nat → List Lexeme → Option (List InsertionCode × List Lexeme)
  | 0, _ => none
  | _ + 1, .word "catalog" :: .closing .brace :: rest => some ([], rest)
  | budget + 1, lexemes => do
    let (insertion, rest) ← readInsertion lexemes
    let (insertions, rest) ← readInsertions budget rest
    return (insertion :: insertions, rest)

/-- Reads the body of the function that gives the catalog, and the brace after it. -/
def readCatalogBody (lexemes : List Lexeme) : Option (List InsertionCode × List Lexeme) :=
  match after (newCatalog ++ [.closing .brace]) lexemes with
  | some rest => some ([], rest)
  | none => do
    let rest ← after ([.word "let", .word "mut", .word "catalog", .punct '='] ++ newCatalog ++
      [.punct ';']) lexemes
    readInsertions (rest.length + 1) rest

/-- Reads the function that gives the catalog. -/
def readCatalog (lexemes : List Lexeme) : Option (List InsertionCode × List Lexeme) := do
  let rest ← readDocumentation lexemes
  let rest ← after ([.word "pub", .word "fn", .word "catalog"] ++ group .parenthesis [] ++
    [.punct '-', .punct '>'] ++ libraryItem ["Catalog"] ++ [.opening .brace]) rest
  readCatalogBody rest

/-- Reads modules and the function that gives the catalog, with nothing after it. -/
def readBlock : Nat → List Lexeme → Option BlockCode
  | 0, _ => none
  | budget + 1, lexemes =>
    match readCatalog lexemes with
    | some (insertions, rest) => if rest.isEmpty then some { modules := [], insertions } else none
    | none => do
      let (module, rest) ← readModule lexemes
      let code ← readBlock budget rest
      return { code with modules := module :: code.modules }

/-- The code of a block that lexemes stand for. -/
def ofLexemes? (lexemes : List Lexeme) : Option BlockCode :=
  readBlock (lexemes.length + 1) lexemes

/-! ### What is read -/

theorem readDocumentation_append (text : String) (rest : List Lexeme) :
    readDocumentation (documentation text ++ rest) = some rest := rfl

theorem isOfPath_libraryItem (names : List String) :
    ∀ l ∈ libraryItem names, Code.isOfPath l = true := by
  intro l hl
  obtain ⟨name, -, hmem⟩ := List.mem_flatMap.mp hl
  simp only [List.mem_cons, List.not_mem_nil, or_false] at hmem
  rcases hmem with rfl | rfl | rfl <;> rfl

/-- The body of a function has no identifier that is a keyword. -/
theorem areNames_body (node : Node) :
    Code.areNames (CompiledFunction.ofNode node).body.identifiers = true := by
  have hstandard : ∀ name ∈ CodeNames.standard.all, isKeyword name = false := by decide
  rw [Code.areNames_iff]
  intro name hname
  exact hstandard name (Code.ofNode_identifiers CodeNames.standard node none name hname)

/-- What stands between the documentation of a function and its body. -/
def signatureLexemes (name values sink : String) : List Lexeme :=
  [.word "pub", .word "fn", .word name] ++ group .parenthesis
    ([.word values, .punct ':', .punct '&'] ++ libraryItem ["Values"] ++
      [.punct ',', .word sink, .punct ':', .punct '&', .word "mut", .word "dyn"] ++
      libraryItem ["DiagnosticSink"] ++ [.punct ',']) ++ [.punct '-', .punct '>'] ++
    path ["std", "string", "String"] ++ [.opening .brace]

theorem readSignature_append (name values sink : String) (rest : List Lexeme) :
    readSignature (signatureLexemes name values sink ++ rest)
      = some ((name, values, sink), rest) := rfl

/-- **The function for a message is read.** -/
theorem readFunction_lexemes (locale : String) (message : BlockMessage) (rest : List Lexeme) :
    readFunction (MessageBlock.messageLexemes locale message ++ rest)
      = some ((message.key, CompiledFunction.ofNode message.content), rest) := by
  let function := CompiledFunction.ofNode message.content
  let inside := function.body.lexemes (libraryItem ["runtime"]) ++ .closing .brace :: rest
  have hlexemes : MessageBlock.messageLexemes locale message ++ rest
      = documentation ("Renders the \"" ++ message.key ++ "\" message for \"" ++ locale ++ "\".") ++
        (signatureLexemes message.key function.values function.sink ++ inside) := by
    simp [MessageBlock.messageLexemes, MessageBlock.functionLexemes, signatureLexemes, group,
      function, inside]
  have hlength : (function.body.lexemes (libraryItem ["runtime"])).length < inside.length + 1 := by
    simp only [inside, List.length_append]
    omega
  have hbody := Code.readExpression_lexemes (isOfPath_libraryItem ["runtime"]) function.body
    (inside.length + 1) (.closing .brace :: rest) (areNames_body message.content) hlength
  rw [hlexemes, readFunction, readDocumentation_append]
  simp only [Option.bind_eq_bind, Option.bind_some, readSignature_append]
  rw [hbody]
  rfl

/-- A list is no longer than what its elements are written with, if none is written with
nothing. -/
theorem length_le_flatMap {α : Type} {f : α → List Lexeme} (h : ∀ a, f a ≠ []) (list : List α) :
    list.length ≤ (list.flatMap f).length := by
  induction list with
  | nil => exact Nat.le_refl 0
  | cons a list ih =>
      have hpos := List.length_pos_iff.mpr (h a)
      rw [List.flatMap_cons, List.length_append, List.length_cons]
      omega

/-- Functions are read one after the other. -/
theorem readFunctions_lexemes (locale : String) (messages : List BlockMessage) (rest : List Lexeme) :
    ∀ budget, messages.length < budget →
      readFunctions budget
          (messages.flatMap (MessageBlock.messageLexemes locale) ++ .closing .brace :: rest)
        = some (messages.map fun message => (message.key, CompiledFunction.ofNode message.content),
            rest) := by
  induction messages with
  | nil =>
      intro budget hbudget
      cases budget with
      | zero => simp at hbudget
      | succ budget => rfl
  | cons message messages ih =>
      intro budget hbudget
      cases budget with
      | zero => simp at hbudget
      | succ budget =>
          have hrest := ih budget (by simpa using hbudget)
          rw [List.flatMap_cons, List.append_assoc, readFunctions, readFunction_lexemes]
          · simp only [Option.bind_eq_bind, Option.bind_some, hrest]
            rfl
          · -- A function starts with its documentation and not with a brace.
            intro other hother
            injection hother with hfirst
            cases hfirst

theorem localeLexemes_append (block : LocaleBlock) (rest : List Lexeme) :
    MessageBlock.localeLexemes block ++ rest
      = documentation ("Messages for the \"" ++ block.locale ++ "\" locale.") ++
        (.word "pub" :: .word "mod" :: .word block.locale :: .opening .brace ::
          (block.messages.flatMap (MessageBlock.messageLexemes block.locale) ++
            .closing .brace :: rest)) := by
  simp [MessageBlock.localeLexemes, group]

/-- **The module for a locale is read.** -/
theorem readModule_lexemes (block : LocaleBlock) (rest : List Lexeme) :
    readModule (MessageBlock.localeLexemes block ++ rest)
      = some ((block.locale, block.functions), rest) := by
  let inside := block.messages.flatMap (MessageBlock.messageLexemes block.locale) ++
    .closing .brace :: rest
  have hlength : block.messages.length < inside.length + 1 := by
    have hmessages := length_le_flatMap (f := MessageBlock.messageLexemes block.locale)
      (fun _ => List.cons_ne_nil _ _) block.messages
    simp only [inside, List.length_append]
    omega
  have hfunctions := readFunctions_lexemes block.locale block.messages rest _ hlength
  rw [localeLexemes_append, readModule, readDocumentation_append]
  simp only [Option.bind_eq_bind, Option.bind_some]
  rw [hfunctions]
  rfl

/-- A module is not taken for the function that gives the catalog. -/
theorem readCatalog_localeLexemes (block : LocaleBlock) (rest : List Lexeme) :
    readCatalog (MessageBlock.localeLexemes block ++ rest) = none := by
  rw [localeLexemes_append, readCatalog, readDocumentation_append]
  rfl

theorem readEntry_lexemes (entry : EntryCode) (rest : List Lexeme) :
    readEntry (entry.lexemes ++ rest) = some (entry, rest) := by
  cases entry with
  | text text =>
      have hsplit := Code.splitPath_call (isOfPath_libraryItem ["TranslationEntry", "Text"])
        (path ["std", "borrow", "Cow", "Borrowed"] ++ group .parenthesis [.string text] ++
          .closing .parenthesis :: rest)
      have hlexemes : (EntryCode.text text).lexemes ++ rest
          = libraryItem ["TranslationEntry", "Text"] ++ .opening .parenthesis ::
            (path ["std", "borrow", "Cow", "Borrowed"] ++ group .parenthesis [.string text] ++
              .closing .parenthesis :: rest) := by
        simp [EntryCode.lexemes, group]
      rw [hlexemes, readEntry, hsplit]
      rfl
  | function module name =>
      have hsplit := Code.splitPath_call (isOfPath_libraryItem ["TranslationEntry", "Function"])
        (.word module :: (path [name] ++ .closing .parenthesis :: rest))
      have hlexemes : (EntryCode.function module name).lexemes ++ rest
          = libraryItem ["TranslationEntry", "Function"] ++ .opening .parenthesis ::
            (.word module :: (path [name] ++ .closing .parenthesis :: rest)) := by
        simp [EntryCode.lexemes, group]
      rw [hlexemes, readEntry, hsplit]
      rfl

/-- **An insertion is read.** -/
theorem readInsertion_lexemes (insertion : InsertionCode) (rest : List Lexeme) :
    readInsertion (insertion.lexemes ++ rest) = some (insertion, rest) := by
  have hlexemes : insertion.lexemes ++ rest
      = .word "catalog" :: .punct '.' :: .word "insert" :: .opening .parenthesis ::
        .string insertion.locale :: .punct ',' :: .string insertion.key :: .punct ',' ::
        (insertion.entry.lexemes ++ .closing .parenthesis :: .punct ';' :: rest) := by
    simp [InsertionCode.lexemes, group, separated, List.intercalate]
  rw [hlexemes, readInsertion, readEntry_lexemes]
  rfl

/-- Insertions are read one after the other. -/
theorem readInsertions_lexemes (insertions : List InsertionCode) (rest : List Lexeme) :
    ∀ budget, insertions.length < budget →
      readInsertions budget
          (insertions.flatMap InsertionCode.lexemes ++ .word "catalog" :: .closing .brace :: rest)
        = some (insertions, rest) := by
  induction insertions with
  | nil =>
      intro budget hbudget
      cases budget with
      | zero => simp at hbudget
      | succ budget => rfl
  | cons insertion insertions ih =>
      intro budget hbudget
      cases budget with
      | zero => simp at hbudget
      | succ budget =>
          have hrest := ih budget (by simpa using hbudget)
          rw [List.flatMap_cons, List.append_assoc, readInsertions, readInsertion_lexemes]
          · simp only [Option.bind_eq_bind, Option.bind_some, hrest]
            rfl
          · -- After the catalog there is a dot and not a brace.
            intro other hother
            injection hother with _ hsecond
            injection hsecond with hpunct
            cases hpunct

/-- The body of the function that gives the catalog is read. -/
theorem readCatalogBody_lexemes (block : MessageBlock) (rest : List Lexeme) :
    readCatalogBody (block.catalogBody ++ .closing .brace :: rest)
      = some (block.code.insertions, rest) := by
  by_cases hempty : block.locales.all (·.messages.isEmpty) = true
  · have hnone : block.code.insertions = [] := by
      rw [MessageBlock.code, List.flatMap_eq_nil_iff]
      intro messages hmessages
      have hlist : messages.messages = [] := by
        simpa using List.all_eq_true.mp hempty messages hmessages
      rw [LocaleBlock.insertionCodes, hlist, List.map_nil]
    rw [MessageBlock.catalogBody, if_pos hempty, hnone]
    rfl
  · have hlexemes : block.locales.flatMap MessageBlock.localeInsertions
        = block.code.insertions.flatMap InsertionCode.lexemes := by
      rw [MessageBlock.code, List.flatMap_assoc]
      exact List.flatMap_congr fun messages _ => messages.insertionCodes_lexemes
    let inside := block.code.insertions.flatMap InsertionCode.lexemes ++
      .word "catalog" :: .closing .brace :: rest
    have hbody : block.catalogBody ++ .closing .brace :: rest
        = [.word "let", .word "mut", .word "catalog", .punct '='] ++ newCatalog ++ [.punct ';'] ++
          inside := by
      rw [MessageBlock.catalogBody, if_neg hempty, hlexemes]
      simp [inside]
    have hlength : block.code.insertions.length < inside.length + 1 := by
      have hinsertions := length_le_flatMap (f := InsertionCode.lexemes)
        (fun _ => List.cons_ne_nil _ _) block.code.insertions
      simp only [inside, List.length_append]
      omega
    have hread := readInsertions_lexemes block.code.insertions rest _ hlength
    rw [hbody, readCatalogBody]
    exact hread

/-- **The function that gives the catalog is read.** -/
theorem readCatalog_lexemes (block : MessageBlock) (text : String) (rest : List Lexeme) :
    readCatalog (MessageBlock.functionLexemes text "catalog" [] (libraryItem ["Catalog"])
        block.catalogBody ++ rest) = some (block.code.insertions, rest) := by
  have hlexemes : MessageBlock.functionLexemes text "catalog" [] (libraryItem ["Catalog"])
        block.catalogBody ++ rest
      = documentation text ++ (([.word "pub", .word "fn", .word "catalog"] ++
        group .parenthesis [] ++ [.punct '-', .punct '>'] ++ libraryItem ["Catalog"] ++
        [.opening .brace]) ++ (block.catalogBody ++ .closing .brace :: rest)) := by
    simp [MessageBlock.functionLexemes, group]
  rw [hlexemes, readCatalog, readDocumentation_append]
  simp only [Option.bind_eq_bind, Option.bind_some]
  rw [Code.after_append]
  exact readCatalogBody_lexemes block rest

/-- Modules are read one after the other. -/
theorem readBlock_lexemes (insertions : List InsertionCode) {catalog : List Lexeme}
    (hcatalog : readCatalog catalog = some (insertions, [])) (blocks : List LocaleBlock) :
    ∀ budget, blocks.length < budget →
      readBlock budget (blocks.flatMap MessageBlock.localeLexemes ++ catalog)
        = some { modules := blocks.map fun block => (block.locale, block.functions),
                 insertions } := by
  induction blocks with
  | nil =>
      intro budget hbudget
      cases budget with
      | zero => simp at hbudget
      | succ budget =>
          rw [List.flatMap_nil, List.nil_append, readBlock, hcatalog]
          rfl
  | cons block blocks ih =>
      intro budget hbudget
      cases budget with
      | zero => simp at hbudget
      | succ budget =>
          have hrest := ih budget (by simpa using hbudget)
          rw [List.flatMap_cons, List.append_assoc, readBlock, readCatalog_localeLexemes]
          simp only [Option.bind_eq_bind, readModule_lexemes, Option.bind_some, hrest]
          rfl

/-- **The code of a block is what its lexemes stand for.** -/
theorem ofLexemes?_lexemes (block : MessageBlock) : ofLexemes? block.lexemes = some block.code := by
  have hcatalog := readCatalog_lexemes block
    " Returns a catalog with every message defined in this block." []
  rw [List.append_nil] at hcatalog
  have hlength : block.locales.length < block.lexemes.length + 1 := by
    have hlocales := length_le_flatMap (f := MessageBlock.localeLexemes)
      (fun _ => List.cons_ne_nil _ _) block.locales
    rw [MessageBlock.lexemes, List.length_append]
    omega
  exact readBlock_lexemes block.code.insertions hcatalog block.locales _ hlength

end BlockCode

end MessageTemplate
