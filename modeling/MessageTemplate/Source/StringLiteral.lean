/-
String literals of Rust source: from the text to the value.

There are three kinds of string literals (text, bytes, and text for C), and each can be
written with escapes or raw.  A line break in the source of a literal is a line feed
that may have a carriage return before it; a carriage return by itself is refused.  In a
literal with escapes, a backslash at the end of a line continues the literal on the next
line without the blanks between.
-/
import MessageTemplate.Text.Hexadecimal

namespace MessageTemplate

namespace Source

/-- The kinds of string literals. -/
inductive StringKind where
  | text
  /-- ASCII characters, and any byte by an escape. -/
  | bytes
  /-- Text without NUL. -/
  | c
deriving DecidableEq

/-- What was read and what is left. -/
abbrev Reading (α : Type) : Type :=
  Option (α × List Char)

namespace StringKind

/-- Whether a character may stand in a literal. -/
def accepts (kind : StringKind) (c : Char) : Bool :=
  match kind with
  | text => true
  | bytes => c.toNat < 0x80
  | .c => c != '\x00'

/-- Whether an escape with two hexadecimal digits may name a number. -/
def acceptsByte (kind : StringKind) (n : Nat) : Bool :=
  match kind with
  | text => n < 0x80
  | bytes => true
  | c => n != 0

end StringKind

/-! ### Escapes -/

/-- The character that a letter after a backslash stands for. -/
def simpleEscape? (kind : StringKind) (c : Char) : Option Char :=
  if c == 'n' then some '\n'
  else if c == 'r' then some '\r'
  else if c == 't' then some '\t'
  else if c == '0' && kind != .c then some '\x00'
  else if c == '\\' || c == '\'' || c == '"' then some c
  else none

/-- The character that two hexadecimal digits name. -/
def byteEscape? (kind : StringKind) (high low : Char) : Option Char := do
  let n := 16 * (← hexDigit? high) + (← hexDigit? low)
  if kind.acceptsByte n then some (Char.ofNat n) else none

/-- The character with a code point. -/
def character? (n : Nat) : Option Char :=
  if n.isValidChar then some (Char.ofNat n) else none

/-- The rest of a code point between braces: at most six hexadecimal digits, with
underscores after the first.  `value` and `count` tell of the digits so far. -/
def readCodePoint (value count : Nat) : List Char → Reading Char
  | [] => none
  | c :: rest =>
    if c == '_' then if count = 0 then none else readCodePoint value count rest
    else if c == '}' then if count = 0 then none else (character? value).map (·, rest)
    else
      match hexDigit? c with
      | some digit =>
        if count = 6 then none else readCodePoint (16 * value + digit) (count + 1) rest
      | none => none

/-- An escape after its backslash. -/
def readEscape (kind : StringKind) : List Char → Reading Char
  | 'x' :: high :: low :: rest => (byteEscape? kind high low).map (·, rest)
  | 'u' :: '{' :: rest =>
    (readCodePoint 0 0 rest).filter fun (c, _) => kind != .bytes && kind.accepts c
  | c :: rest => (simpleEscape? kind c).map (·, rest)
  | [] => none

theorem readCodePoint_length {value count : Nat} {text rest : List Char} {c : Char}
    (h : readCodePoint value count text = some (c, rest)) : rest.length < text.length := by
  induction text generalizing value count with
  | nil => simp [readCodePoint] at h
  | cons d text ih =>
    rw [readCodePoint] at h
    simp only [List.length_cons]
    split at h
    · split at h
      · simp at h
      · have := ih h
        omega
    · split at h
      · split at h
        · simp at h
        · obtain ⟨_, _, hpair⟩ := Option.map_eq_some_iff.1 h
          simp only [Prod.mk.injEq] at hpair
          simp [hpair.2]
      · split at h
        · split at h
          · simp at h
          · have := ih h
            omega
        · simp at h

theorem readEscape_length {kind : StringKind} {text rest : List Char} {c : Char}
    (h : readEscape kind text = some (c, rest)) : rest.length < text.length := by
  unfold readEscape at h
  split at h
  · obtain ⟨_, _, hpair⟩ := Option.map_eq_some_iff.1 h
    simp only [Prod.mk.injEq] at hpair
    simp only [← hpair.2, List.length_cons]
    omega
  · have := readCodePoint_length (Option.filter_eq_some_iff.1 h).1
    simp only [List.length_cons]
    omega
  · obtain ⟨_, _, hpair⟩ := Option.map_eq_some_iff.1 h
    simp only [Prod.mk.injEq] at hpair
    simp [← hpair.2]
  · simp at h

/-! ### Literals -/

/-- A character in front of what else is read. -/
def Reading.cons (c : Char) (reading : Reading (List Char)) : Reading (List Char) :=
  reading.map fun (value, rest) => (c :: value, rest)

/-- Whether a continued line starts with a character, apart from a carriage return. -/
def isContinuationBlank (c : Char) : Bool :=
  c == ' ' || c == '\t' || c == '\n'

/-- The rest of a literal with escapes after its opening quote; `continued` tells
whether only blanks came since a backslash at the end of a line. -/
def readCooked (kind : StringKind) (continued : Bool) : List Char → Reading (List Char)
  | [] => none
  | '"' :: rest => some ([], rest)
  | '\r' :: '\n' :: rest =>
    if continued then readCooked kind true rest
    else Reading.cons '\n' (readCooked kind false rest)
  | '\\' :: '\n' :: rest => readCooked kind true rest
  | '\\' :: '\r' :: '\n' :: rest => readCooked kind true rest
  | '\\' :: rest =>
    match h : readEscape kind rest with
    | some (c, after) =>
      have := readEscape_length h
      Reading.cons c (readCooked kind false after)
    | none => none
  | c :: rest =>
    if continued && isContinuationBlank c then readCooked kind true rest
    else if c == '\r' || !kind.accepts c then none
    else Reading.cons c (readCooked kind false rest)
termination_by text => text.length

/-- The rest of a raw literal after its opening quote; the closing quote has a number of
hashes after it. -/
def readRaw (kind : StringKind) (hashes : Nat) : List Char → Reading (List Char)
  | [] => none
  | '\r' :: '\n' :: rest => Reading.cons '\r' (Reading.cons '\n' (readRaw kind hashes rest))
  | c :: rest =>
    if c == '"' && (List.replicate hashes '#').isPrefixOf rest then
      some ([], rest.drop hashes)
    else if c == '\r' || !kind.accepts c then none
    else Reading.cons c (readRaw kind hashes rest)

/-- A raw literal after its letters: hashes, at most 255 of them, and the opening
quote. -/
def readRawLiteral (kind : StringKind) (text : List Char) : Reading (List Char) :=
  let hashes := (text.takeWhile (· == '#')).length
  match text.dropWhile (· == '#') with
  | '"' :: rest => if hashes ≤ 255 then readRaw kind hashes rest else none
  | _ => none

/-- The character of a character literal, or the escape for it. -/
def readItem (kind : StringKind) : List Char → Reading Char
  | [] => none
  | '\\' :: rest => readEscape kind rest
  | c :: rest => if kind.accepts c then some (c, rest) else none

/-- The rest of a character literal after its opening quote. -/
def readCharacter (kind : StringKind) (text : List Char) : Reading Char :=
  match readItem kind text with
  | some (c, '\'' :: rest) => some (c, rest)
  | _ => none

end Source

end MessageTemplate
