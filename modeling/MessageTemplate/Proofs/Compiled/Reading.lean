/-
Code is read back from its lexemes.

The reader here is for Rust expressions of the kinds that occur in code.  It knows the
path of the items that code calls and takes identifiers as they come, as long as they are
not keywords.  A format string is taken apart into its fixed texts, and then there has to
be a call for each hole and no more.

A path is read to its end before it is compared with anything, so that an expression is
known by the whole path at its start.  Recursion is on a budget; every expression, arm
and statement has lexemes of its own, so their number suffices
(`readExpression_lexemes`).
-/
import MessageTemplate.Compiled.Lexemes
import MessageTemplate.Proofs.Compiled.Identifiers
import MessageTemplate.Source.Keyword
import Mathlib.Data.List.Induction
import Mathlib.Data.List.TakeWhile

namespace MessageTemplate

open Source

/-! ### Format strings -/

namespace Literal

/-- The fixed texts of a format string: the first one, and one after each hole.  A brace
that is text has to be doubled. -/
def decodeFormat : List Char → Option (List Char × List (List Char))
  | [] => some ([], [])
  | '{' :: '{' :: rest => (decodeFormat rest).map fun (first, texts) => ('{' :: first, texts)
  | '}' :: '}' :: rest => (decodeFormat rest).map fun (first, texts) => ('}' :: first, texts)
  | '{' :: '}' :: rest => (decodeFormat rest).map fun (first, texts) => ([], first :: texts)
  | c :: rest =>
    if c == '{' || c == '}' then none
    else (decodeFormat rest).map fun (first, texts) => (c :: first, texts)

/-- A text in a format string is part of the fixed text that it stands in. -/
theorem decodeFormat_formatText (text rest : List Char) :
    decodeFormat (text.flatMap formatChar ++ rest)
      = (decodeFormat rest).map fun (first, texts) => (text ++ first, texts) := by
  induction text with
  | nil => simp
  | cons c text ih =>
      rw [List.flatMap_cons, List.append_assoc]
      by_cases hopen : c = '{'
      · subst hopen
        have hchar : formatChar '{' = ['{', '{'] := rfl
        simp [hchar, decodeFormat, ih]
        cases decodeFormat rest <;> rfl
      by_cases hclose : c = '}'
      · subst hclose
        have hchar : formatChar '}' = ['}', '}'] := rfl
        simp [hchar, decodeFormat, ih]
        cases decodeFormat rest <;> rfl
      have hchar : formatChar c = [c] := by simp [formatChar, hopen, hclose]
      rw [hchar, List.singleton_append, decodeFormat]
      · simp [hopen, hclose, ih]
        cases decodeFormat rest <;> rfl
      all_goals simp [hopen, hclose]

end Literal

namespace Flat

theorem formatString_toList (flat : Flat) :
    flat.formatString.toList = flat.first.toList.flatMap Literal.formatChar ++
      flat.holes.flatMap fun hole => '{' :: '}' :: hole.2.toList.flatMap Literal.formatChar := by
  unfold formatString
  induction flat.holes using List.reverseRecOn with
  | nil => simp [Literal.formatText]
  | append_singleton holes hole ih =>
      rw [List.foldl_append, List.flatMap_append, ← List.append_assoc, ← ih]
      simp [Literal.formatText]

/-- **A format string has the fixed texts of its code, in order.** -/
theorem decodeFormat_formatString (flat : Flat) :
    Literal.decodeFormat flat.formatString.toList
      = some (flat.first.toList, flat.holes.map (·.2.toList)) := by
  have hholes : Literal.decodeFormat (flat.holes.flatMap fun hole =>
      '{' :: '}' :: hole.2.toList.flatMap Literal.formatChar)
        = some ([], flat.holes.map (·.2.toList)) := by
    induction flat.holes with
    | nil => rfl
    | cons hole holes ih =>
        simp [Literal.decodeFormat, Literal.decodeFormat_formatText, ih]
  rw [formatString_toList, Literal.decodeFormat_formatText, hholes]
  simp

end Flat

/-! ### The reader -/

namespace Code

/-- Whether a lexeme may be part of a path. -/
def isOfPath : Lexeme → Bool
  | .word _ => true
  | .punct c => c == ':'
  | _ => false

/-- The path at the start of lexemes, and the rest. -/
def splitPath (lexemes : List Lexeme) : List Lexeme × List Lexeme :=
  (lexemes.takeWhile isOfPath, lexemes.dropWhile isOfPath)

/-- What comes after lexemes that have to come. -/
def after : List Lexeme → List Lexeme → Option (List Lexeme)
  | [], rest => some rest
  | wanted :: others, lexeme :: rest => if lexeme = wanted then after others rest else none
  | _ :: _, [] => none

/-- Whether all names may be given. -/
def areNames (names : List String) : Bool :=
  names.all (!isKeyword ·)

section

variable (items : List Lexeme)

/-- Reads a call. -/
def readCall (lexemes : List Lexeme) : Option (Call × List Lexeme) :=
  let (head, rest) := splitPath lexemes
  if head = itemLexemes items "text" then
    match rest with
    | .opening .parenthesis :: .word values :: .punct ',' :: .word sink :: .punct ',' ::
        .string name :: .closing .parenthesis :: rest =>
      if areNames [values, sink] then some (.text values sink name, rest) else none
    | _ => none
  else if head = itemLexemes items "number" then
    match rest with
    | .opening .parenthesis :: .word values :: .punct ',' :: .string name ::
        .closing .parenthesis :: rest =>
      if areNames [values] then some (.number values name, rest) else none
    | _ => none
  else none

/-- Reads a comma and a call for each fixed text that follows a hole, and then the end of
the arguments. -/
def readArguments :
    List (List Char) → List Lexeme → Option (List (Call × String) × List Lexeme)
  | [], .closing .parenthesis :: rest => some ([], rest)
  | text :: texts, .punct ',' :: lexemes => do
    let (call, rest) ← readCall items lexemes
    let (holes, rest) ← readArguments texts rest
    return ((call, String.ofList text) :: holes, rest)
  | _, _ => none

/-- Reads what follows `String::from`. -/
def readText : List Lexeme → Option (Code × List Lexeme)
  | .opening .parenthesis :: .string text :: .closing .parenthesis :: rest =>
    some (.flat (Flat.ofText text), rest)
  | _ => none

/-- Reads what follows `format`: there has to be a hole. -/
def readFormat : List Lexeme → Option (Code × List Lexeme)
  | .punct '!' :: .opening .parenthesis :: .string format :: rest => do
    let (first, texts) ← Literal.decodeFormat format.toList
    let (holes, rest) ← readArguments items texts rest
    if holes.isEmpty then none
    else return (.flat { first := String.ofList first, holes }, rest)
  | _ => none

/-- The kind of branch that a path resolves. -/
def kindOf? (head : List Lexeme) : Option BranchKind :=
  if head = itemLexemes items BranchKind.plural.resolver then some .plural
  else if head = itemLexemes items BranchKind.select.resolver then some .select
  else none

/-- Reads the arguments of a resolver, up to the first arm. -/
def readResolver : List Lexeme → Option ((String × String × String) × List Lexeme)
  | .opening .parenthesis :: .word values :: .punct ',' :: .word sink :: .punct ',' ::
      .string name :: .punct ',' :: .punct '&' :: .opening .bracket :: rest =>
    if areNames [values, sink] then some ((values, sink, name), rest) else none
  | _ => none

/-- The parameter of a lazy arm. -/
def readParameter (name : String) : Option (Option String) :=
  if name = "_" then some none else if areNames [name] then some (some name) else none

/-- Reads what stands before the body of a lazy arm, after the name of the variant. -/
def readLazyHead (lexemes : List Lexeme) : Option (Option String × List Lexeme) :=
  match lexemes with
  | .opening .parenthesis :: .punct '&' :: .punct '|' :: .word name :: .punct ':' ::
      .punct '&' :: .word "mut" :: .word "dyn" :: lexemes =>
    let (head, rest) := splitPath lexemes
    if head = itemLexemes items "DiagnosticSink" then do
      let parameter ← readParameter name
      let rest ← after [.punct '|'] rest
      return (parameter, rest)
    else none
  | _ => none

/-- Reads an arm without its key; `readBody` reads the body of a lazy one. -/
def readArm (readBody : List Lexeme → Option (Code × List Lexeme)) (lexemes : List Lexeme) :
    Option (ArmCode Code × List Lexeme) :=
  let (head, rest) := splitPath lexemes
  if head = itemLexemes items "Arm" ++ path ["Text"] then
    match rest with
    | .opening .parenthesis :: .string text :: .closing .parenthesis :: rest =>
      some (.text text, rest)
    | _ => none
  else if head = itemLexemes items "Arm" ++ path ["Lazy"] then do
    let (parameter, rest) ← readLazyHead items rest
    let (body, rest) ← readBody rest
    let rest ← after [.closing .parenthesis] rest
    return (.lazy parameter body, rest)
  else none

/-- Reads the declaration at the start of a block. -/
def readDeclaration : List Lexeme → Option (String × List Lexeme)
  | .opening .brace :: .word "let" :: .word "mut" :: .word buffer :: rest => do
    let rest ← after ([.punct '=', .word "String"] ++ path ["new"] ++ group .parenthesis [] ++
      [.punct ';']) rest
    if areNames [buffer] then return (buffer, rest) else none
  | _ => none

/-- Reads a statement that appends to a buffer; `readBody` reads code. -/
def readPush (readBody : List Lexeme → Option (Code × List Lexeme)) (buffer : String) :
    List Lexeme → Option (Statement Code × List Lexeme)
  | .string text :: rest => do
    let rest ← after [.closing .parenthesis, .punct ';'] rest
    return (.pushText buffer text, rest)
  | .punct '&' :: lexemes => do
    let (code, rest) ← readBody lexemes
    let rest ← after [.closing .parenthesis, .punct ';'] rest
    return (.pushCode buffer code, rest)
  | _ => none

mutual

/-- Reads an expression. -/
def readExpression : Nat → List Lexeme → Option (Code × List Lexeme)
  | 0, _ => none
  | budget + 1, lexemes =>
    let (head, rest) := splitPath lexemes
    if head = .word "String" :: path ["from"] then readText rest
    else if head = [.word "format"] then readFormat items rest
    else if head = [] then do
      let (buffer, rest) ← readDeclaration rest
      let (statements, result, rest) ← readStatements budget rest
      return (.block buffer statements result, rest)
    else do
      let kind ← kindOf? items head
      let ((values, sink, name), rest) ← readResolver rest
      let (arms, rest) ← readArms budget rest
      let rest ← after [.closing .parenthesis] rest
      return (.resolve kind values sink name arms, rest)

/-- Reads arms and the bracket after them. -/
def readArms : Nat → List Lexeme → Option (List (String × ArmCode Code) × List Lexeme)
  | 0, _ => none
  | _ + 1, .closing .bracket :: rest => some ([], rest)
  | budget + 1, .opening .parenthesis :: .string key :: .punct ',' :: lexemes => do
    let (arm, rest) ← readArm items (fun lexemes => readExpression budget lexemes) lexemes
    let rest ← after [.closing .parenthesis, .punct ','] rest
    let (arms, rest) ← readArms budget rest
    return ((key, arm) :: arms, rest)
  | _ + 1, _ => none

/-- Reads statements, the result of the block and the brace after it. -/
def readStatements :
    Nat → List Lexeme → Option (List (Statement Code) × String × List Lexeme)
  | 0, _ => none
  | _ + 1, .word result :: .closing .brace :: rest =>
    if areNames [result] then some ([], result, rest) else none
  | budget + 1, .word buffer :: .punct '.' :: .word "push_str" :: .opening .parenthesis ::
      lexemes => do
    let (statement, rest) ←
      readPush (fun lexemes => readExpression budget lexemes) buffer lexemes
    let (statements, result, rest) ← readStatements budget rest
    if areNames [buffer] then return (statement :: statements, result, rest) else none
  | _ + 1, _ => none

end

/-- The code that lexemes stand for, all of them together. -/
def ofLexemes? (lexemes : List Lexeme) : Option Code :=
  match readExpression items (lexemes.length + 1) lexemes with
  | some (code, []) => some code
  | _ => none

end

/-! ### Paths -/

theorem splitPath_append {head rest : List Lexeme} {lexeme : Lexeme}
    (hhead : ∀ l ∈ head, isOfPath l = true) (hlexeme : isOfPath lexeme = false) :
    splitPath (head ++ lexeme :: rest) = (head, lexeme :: rest) := by
  have hneg : ¬isOfPath lexeme = true := by simp [hlexeme]
  rw [splitPath, List.takeWhile_append_of_pos hhead, List.takeWhile_cons_of_neg hneg,
    List.dropWhile_append_of_pos hhead, List.dropWhile_cons_of_neg hneg, List.append_nil]

/-- A path in front of its arguments. -/
theorem splitPath_call {head : List Lexeme} (hhead : ∀ l ∈ head, isOfPath l = true)
    (rest : List Lexeme) :
    splitPath (head ++ .opening .parenthesis :: rest) = (head, .opening .parenthesis :: rest) :=
  splitPath_append hhead rfl

@[simp] theorem after_append (wanted rest : List Lexeme) :
    after wanted (wanted ++ rest) = some rest := by
  induction wanted with
  | nil => rfl
  | cons lexeme wanted ih => simp [after, ih]

variable {items : List Lexeme}

theorem isOfPath_item (hitems : ∀ l ∈ items, isOfPath l = true) (name : String) :
    ∀ l ∈ itemLexemes items name, isOfPath l = true := by
  rw [itemLexemes, List.forall_mem_append]
  exact ⟨hitems, by simp [path, isOfPath]⟩

theorem itemLexemes_getLast? (items : List Lexeme) (name : String) :
    (itemLexemes items name).getLast? = some (.word name) := by
  simp [itemLexemes, path, List.getLast?_append]

/-- An item is known by its name. -/
theorem itemLexemes_ne {name : String} {head : List Lexeme}
    (h : head.getLast? ≠ some (.word name)) : head ≠ itemLexemes items name := by
  rintro rfl
  exact h (itemLexemes_getLast? items name)

theorem variant_ne {name variant : String} (h : name ≠ variant) (head : List Lexeme) :
    head ++ path [name] ≠ head ++ path [variant] := by
  simp [path, h]

theorem kindOf?_resolver (kind : BranchKind) :
    kindOf? items (itemLexemes items kind.resolver) = some kind := by
  cases kind with
  | plural => simp [kindOf?]
  | select =>
      have hne : itemLexemes items BranchKind.select.resolver
          ≠ itemLexemes items BranchKind.plural.resolver := by
        refine itemLexemes_ne ?_
        rw [itemLexemes_getLast?]
        decide
      simp [kindOf?, hne]

/-! ### Parts of code -/

theorem readResolver_lexemes {values sink : String} (name : String)
    (h : areNames [values, sink] = true) (rest : List Lexeme) :
    readResolver (.opening .parenthesis :: .word values :: .punct ',' :: .word sink ::
        .punct ',' :: .string name :: .punct ',' :: .punct '&' :: .opening .bracket :: rest)
      = some ((values, sink, name), rest) := by
  simp [readResolver, h]

/-- No item is read for another kind of expression. -/
theorem resolver_ne (items : List Lexeme) (kind : BranchKind) :
    itemLexemes items kind.resolver ≠ .word "String" :: path ["from"] ∧
      itemLexemes items kind.resolver ≠ [.word "format"] ∧
      itemLexemes items kind.resolver ≠ [] := by
  refine ⟨(itemLexemes_ne ?_).symm, (itemLexemes_ne ?_).symm, (itemLexemes_ne ?_).symm⟩
  all_goals cases kind <;> decide

theorem readParameter_getD {parameter : Option String}
    (h : areNames parameter.toList = true) :
    readParameter (parameter.getD "_") = some parameter := by
  cases parameter with
  | none => rfl
  | some name =>
      have hname : areNames [name] = true := h
      have hne : name ≠ "_" := by
        rintro rfl
        exact absurd hname (by decide)
      simp [readParameter, hname, hne]

theorem readDeclaration_lexemes {buffer : String} (h : areNames [buffer] = true)
    (rest : List Lexeme) :
    readDeclaration (.opening .brace :: ([.word "let", .word "mut", .word buffer, .punct '=',
        .word "String"] ++ path ["new"] ++ group .parenthesis [] ++ [.punct ';']) ++ rest)
      = some (buffer, rest) := by
  simp [readDeclaration, path, group, after, h]

/-! ### Flat code -/

theorem areNames_iff {names : List String} :
    areNames names = true ↔ ∀ name ∈ names, isKeyword name = false := by
  simp [areNames]

theorem separated_cons (run : List Lexeme) (runs : List (List Lexeme)) :
    separated (run :: runs) = run ++ runs.flatMap fun other => .punct ',' :: other := by
  induction runs generalizing run with
  | nil => simp [separated]
  | cons other runs ih =>
      have hrest := ih other
      simp only [separated, List.intercalate] at hrest ⊢
      simp [hrest]

section

variable (hitems : ∀ l ∈ items, isOfPath l = true)

include hitems

theorem readCall_lexemes (call : Call) (h : areNames call.identifiers = true)
    (rest : List Lexeme) : readCall items (call.lexemes items ++ rest) = some (call, rest) := by
  cases call with
  | text values sink name =>
      have hnames : areNames [values, sink] = true := h
      have hsplit := splitPath_call (isOfPath_item hitems "text")
      simp [Call.lexemes, readCall, separated, group, List.intercalate, hsplit, hnames]
  | number values name =>
      have hnames : areNames [values] = true := h
      have hne : itemLexemes items "number" ≠ itemLexemes items "text" := by
        refine itemLexemes_ne ?_
        rw [itemLexemes_getLast?]
        decide
      have hsplit := splitPath_call (isOfPath_item hitems "number")
      simp [Call.lexemes, readCall, separated, group, List.intercalate, hsplit, hnames, hne]

/-- Calls with commas in front of them are read for as many texts. -/
theorem readArguments_lexemes (holes : List (Call × String))
    (h : ∀ hole ∈ holes, areNames hole.1.identifiers = true) (rest : List Lexeme) :
    readArguments items (holes.map (·.2.toList))
        (holes.flatMap (fun hole => .punct ',' :: hole.1.lexemes items) ++
          .closing .parenthesis :: rest)
      = some (holes, rest) := by
  induction holes with
  | nil => rfl
  | cons hole holes ih =>
      have hcall := readCall_lexemes hitems hole.1 (h hole (by simp))
      have hrest := ih fun other hother => h other (List.mem_cons_of_mem _ hother)
      simp [readArguments, hcall, hrest]

theorem readFlat_lexemes (flat : Flat) (h : areNames flat.identifiers = true) (budget : Nat)
    (rest : List Lexeme) :
    readExpression items (budget + 1) (flat.lexemes items ++ rest) = some (.flat flat, rest) := by
  have hholes : ∀ hole ∈ flat.holes, areNames hole.1.identifiers = true := by
    intro hole hhole
    rw [areNames_iff] at h ⊢
    exact fun name hname => h name (List.mem_flatMap.mpr ⟨hole, hhole, hname⟩)
  by_cases htext : flat.isText = true
  · obtain ⟨first, holes⟩ := flat
    obtain rfl : holes = [] := by simpa [Flat.isText] using htext
    have hhead : ∀ l ∈ (.word "String" :: path ["from"] : List Lexeme), isOfPath l = true := by
      decide
    have hlexemes : Flat.lexemes items { first, holes := [] } ++ rest
        = (.word "String" :: path ["from"]) ++
          .opening .parenthesis :: .string first :: .closing .parenthesis :: rest := by
      simp [Flat.lexemes, Flat.isText, group, path]
    rw [hlexemes, readExpression, splitPath_call hhead]
    simp [readText, Flat.ofText]
  · have hne : flat.holes ≠ [] := by simpa [Flat.isText] using htext
    have hhead : ∀ l ∈ ([.word "format"] : List Lexeme), isOfPath l = true := by decide
    have hlexemes : flat.lexemes items ++ rest
        = [.word "format"] ++ .punct '!' :: .opening .parenthesis ::
          .string flat.formatString ::
          (flat.holes.flatMap (fun hole => .punct ',' :: hole.1.lexemes items) ++
            .closing .parenthesis :: rest) := by
      simp [Flat.lexemes, htext, group, separated_cons, List.flatMap_map]
    have hfirst : ([.word "format"] : List Lexeme) ≠ .word "String" :: path ["from"] := by
      decide
    rw [hlexemes, readExpression, splitPath_append hhead rfl]
    simp [hfirst, readFormat, flat.decodeFormat_formatString,
      readArguments_lexemes hitems flat.holes hholes, hne]

/-! ### Arms -/

theorem readLazyHead_lexemes {parameter : Option String}
    (h : areNames parameter.toList = true) (rest : List Lexeme) :
    readLazyHead items (.opening .parenthesis :: lazyLexemes items parameter ++ rest)
      = some (parameter, rest) := by
  have hsplit : splitPath (itemLexemes items "DiagnosticSink" ++ .punct '|' :: rest)
      = (itemLexemes items "DiagnosticSink", .punct '|' :: rest) :=
    splitPath_append (isOfPath_item hitems _) rfl
  simp [lazyLexemes, readLazyHead, hsplit, readParameter_getD h, after]

variable (readBody : List Lexeme → Option (Code × List Lexeme))

omit hitems in
theorem armLexemesOf_append (key variant : String) (content rest : List Lexeme) :
    armLexemesOf items key variant content ++ rest
      = .opening .parenthesis :: .string key :: .punct ',' ::
        ((itemLexemes items "Arm" ++ path [variant]) ++ .opening .parenthesis ::
          (content ++ .closing .parenthesis :: .closing .parenthesis :: .punct ',' :: rest)) := by
  simp [armLexemesOf, separated, group, List.intercalate]

theorem isOfPath_variant (variant : String) :
    ∀ l ∈ itemLexemes items "Arm" ++ path [variant], isOfPath l = true := by
  rw [List.forall_mem_append]
  exact ⟨isOfPath_item hitems _, by simp [path, isOfPath]⟩

theorem readArm_text (text : String) (rest : List Lexeme) :
    readArm items readBody ((itemLexemes items "Arm" ++ path ["Text"]) ++
        .opening .parenthesis :: .string text :: .closing .parenthesis :: rest)
      = some (.text text, rest) := by
  rw [readArm, splitPath_call (isOfPath_variant hitems "Text")]
  simp

/-- A lazy arm is read if its body is. -/
theorem readArm_lazy {parameter : Option String} (h : areNames parameter.toList = true)
    {body : Code} {lexemes rest : List Lexeme}
    (hbody : readBody (lexemes ++ .closing .parenthesis :: rest)
      = some (body, .closing .parenthesis :: rest)) :
    readArm items readBody ((itemLexemes items "Arm" ++ path ["Lazy"]) ++
        .opening .parenthesis :: (lazyLexemes items parameter ++ lexemes ++
          .closing .parenthesis :: rest))
      = some (.lazy parameter body, rest) := by
  have hne : itemLexemes items "Arm" ++ path ["Lazy"]
      ≠ itemLexemes items "Arm" ++ path ["Text"] := variant_ne (by decide) _
  have hlazy := readLazyHead_lexemes hitems h (lexemes ++ .closing .parenthesis :: rest)
  rw [readArm, splitPath_call (isOfPath_variant hitems "Lazy")]
  rw [List.cons_append, ← List.append_assoc] at hlazy
  simp only [hne, if_false, if_true, hlazy, hbody, Option.bind_eq_bind, Option.bind_some]
  simp [after]

end

/-! ### Every expression -/

mutual

/-- **Code is read back from its lexemes, with anything after them.** -/
theorem readExpression_lexemes (hitems : ∀ l ∈ items, isOfPath l = true) :
    ∀ (code : Code) (budget : Nat) (rest : List Lexeme),
      areNames code.identifiers = true → (code.lexemes items).length < budget →
      readExpression items budget (code.lexemes items ++ rest) = some (code, rest)
  | .flat pieces, budget + 1, rest, h, _ => readFlat_lexemes hitems pieces h budget rest
  | .resolve kind values sink name arms, budget + 1, rest, h, hbudget => by
      have hnames : areNames [values, sink] = true ∧ areNames (armIdentifiers arms) = true := by
        simpa [identifiers, areNames, and_assoc] using h
      have hlexemes : lexemes items (.resolve kind values sink name arms) ++ rest
          = itemLexemes items kind.resolver ++ .opening .parenthesis :: .word values ::
            .punct ',' :: .word sink :: .punct ',' :: .string name :: .punct ',' :: .punct '&' ::
            .opening .bracket :: (armLexemes items arms ++ .closing .bracket ::
              .closing .parenthesis :: rest) := by
        simp [lexemes, separated, group, List.intercalate]
      have harms := readArms_lexemes hitems arms budget (.closing .parenthesis :: rest) hnames.2
        (by simp [lexemes, separated, group, List.intercalate] at hbudget; omega)
      obtain ⟨hfrom, hformat, hnil⟩ := resolver_ne items kind
      rw [hlexemes, readExpression, splitPath_call (isOfPath_item hitems _)]
      simp [hfrom, hformat, hnil, kindOf?_resolver, readResolver_lexemes name hnames.1, harms,
        after]
  | .block buffer statements result, budget + 1, rest, h, hbudget => by
      have hnames : areNames [buffer] = true ∧ areNames [result] = true ∧
          areNames (statementIdentifiers statements) = true := by
        simpa [identifiers, areNames] using h
      have hlexemes : lexemes items (.block buffer statements result) ++ rest
          = .opening .brace :: (([.word "let", .word "mut", .word buffer, .punct '=',
              .word "String"] ++ path ["new"] ++ group .parenthesis [] ++ [.punct ';']) ++
            (statementLexemes items statements ++ .word result :: .closing .brace :: rest)) := by
        simp [lexemes, group]
      have hsplit : ∀ inside, splitPath (.opening .brace :: inside)
          = ([], .opening .brace :: inside) := fun _ => rfl
      have hstatements := readStatements_lexemes hitems statements result budget rest
        hnames.2.2 hnames.2.1 (by simp [lexemes, group] at hbudget; omega)
      have hdeclaration := readDeclaration_lexemes hnames.1
        (statementLexemes items statements ++ .word result :: .closing .brace :: rest)
      rw [hlexemes, readExpression, hsplit]
      rw [List.cons_append] at hdeclaration
      simp only [List.ne_cons_self, hdeclaration, reduceCtorEq, if_false, if_true,
        Option.bind_eq_bind, Option.bind_some, hstatements]
      rfl
  | _, 0, _, _, hbudget => absurd hbudget (by omega)

theorem readArms_lexemes (hitems : ∀ l ∈ items, isOfPath l = true) :
    ∀ (arms : List (String × ArmCode Code)) (budget : Nat) (rest : List Lexeme),
      areNames (armIdentifiers arms) = true → (armLexemes items arms).length < budget →
      readArms items budget (armLexemes items arms ++ .closing .bracket :: rest)
        = some (arms, rest)
  | [], budget + 1, rest, _, _ => by
      simp [armLexemes, readArms]
  | (key, .text text) :: others, budget + 1, rest, h, hbudget => by
      have hothers := readArms_lexemes hitems others budget rest h
        (by simp [armLexemes, armLexemesOf, group] at hbudget; omega)
      rw [armLexemes, List.append_assoc, armLexemesOf_append, readArms]
      simp only [List.singleton_append, readArm_text hitems, Option.bind_eq_bind,
        Option.bind_some]
      simp [after, hothers]
  | (key, .lazy parameter body) :: others, budget + 1, rest, h, hbudget => by
      have hnames : areNames parameter.toList = true ∧ areNames body.identifiers = true ∧
          areNames (armIdentifiers others) = true := by
        simpa [armIdentifiers, areNames, and_assoc] using h
      have hlength : (body.lexemes items).length < budget ∧
          (armLexemes items others).length < budget := by
        simp [armLexemes, armLexemesOf, separated_cons, group] at hbudget
        omega
      have hothers := readArms_lexemes hitems others budget rest hnames.2.2 hlength.2
      have hbody := readExpression_lexemes hitems body budget (.closing .parenthesis ::
        .closing .parenthesis :: .punct ',' :: (armLexemes items others ++
          .closing .bracket :: rest)) hnames.2.1 hlength.1
      have harm := readArm_lazy hitems (fun lexemes => readExpression items budget lexemes)
        hnames.1 hbody
      rw [armLexemes, List.append_assoc, armLexemesOf_append, readArms]
      simp only [harm, Option.bind_eq_bind, Option.bind_some]
      simp [after, hothers]
  | _, 0, _, _, hbudget => absurd hbudget (by omega)

theorem readStatements_lexemes (hitems : ∀ l ∈ items, isOfPath l = true) :
    ∀ (statements : List (Statement Code)) (result : String) (budget : Nat)
      (rest : List Lexeme),
      areNames (statementIdentifiers statements) = true → areNames [result] = true →
      (statementLexemes items statements).length < budget →
      readStatements items budget (statementLexemes items statements ++
          .word result :: .closing .brace :: rest)
        = some (statements, result, rest)
  | [], result, budget + 1, rest, _, hresult, _ => by
      simp [statementLexemes, readStatements, hresult]
  | .pushText buffer text :: others, result, budget + 1, rest, h, hresult, hbudget => by
      have hnames : areNames [buffer] = true ∧ areNames (statementIdentifiers others) = true := by
        simpa [statementIdentifiers, areNames] using h
      have hothers := readStatements_lexemes hitems others result budget rest hnames.2 hresult
        (by simp [statementLexemes, pushLexemes, group] at hbudget; omega)
      simp [statementLexemes, pushLexemes, group, readStatements, readPush, after, hothers,
        hnames.1]
  | .pushCode buffer code :: others, result, budget + 1, rest, h, hresult, hbudget => by
      have hnames : areNames [buffer] = true ∧ areNames code.identifiers = true ∧
          areNames (statementIdentifiers others) = true := by
        simpa [statementIdentifiers, areNames] using h
      have hlength : (code.lexemes items).length < budget ∧
          (statementLexemes items others).length < budget := by
        simp [statementLexemes, pushLexemes, group] at hbudget
        omega
      have hothers := readStatements_lexemes hitems others result budget rest hnames.2.2 hresult
        hlength.2
      have hcode := readExpression_lexemes hitems code budget (.closing .parenthesis ::
        .punct ';' :: (statementLexemes items others ++ .word result :: .closing .brace :: rest))
        hnames.2.1 hlength.1
      simp [statementLexemes, pushLexemes, group, readStatements, readPush, after, hothers,
        hcode, hnames.1]
  | _, _, 0, _, _, _, hbudget => absurd hbudget (by omega)

end

/-- **Code is what its lexemes stand for.** -/
theorem ofLexemes?_lexemes (hitems : ∀ l ∈ items, isOfPath l = true) {code : Code}
    (h : ∀ name ∈ code.identifiers, isKeyword name = false) :
    ofLexemes? items (code.lexemes items) = some code := by
  have hread := readExpression_lexemes hitems code _ [] (areNames_iff.mpr h)
    (Nat.lt_succ_self (code.lexemes items).length)
  rw [List.append_nil] at hread
  rw [ofLexemes?, hread]

end Code

end MessageTemplate
