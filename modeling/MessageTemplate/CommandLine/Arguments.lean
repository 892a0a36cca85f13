/-
The arguments of the program: from words to a request.

Words are read from left to right.  Up to the name of a command they are switches of the
program, and after it switches and operands of the command.  A switch that takes a value
takes it from its own word or from the next one, which may not look like a switch.
After two dashes, and after the command for help, every word is an operand.  Reading stops
at the first word that is wrong, asks for help, or asks for the version.
-/
import MessageTemplate.Compiled.Layout

namespace MessageTemplate

namespace CommandLine

/-- Why no command is carried out. -/
inductive Stop where
  /-- The arguments make no request. -/
  | usage
  | help
  | version
deriving DecidableEq

/-! ### Commands and switches -/

/-- The commands. -/
inductive Command where
  | eval
  | check
  | tokens
  | generate
  | help
deriving DecidableEq

/-- The switches of the program and of its commands. -/
inductive Switch where
  | color
  | verbose
  | help
  | version
  | template
  | param
  | json
  | file
  | name
  | runtimePath
deriving DecidableEq

namespace Switch

/-- The name after two dashes. -/
def long : Switch → String
  | color => "color"
  | verbose => "verbose"
  | help => "help"
  | version => "version"
  | template => "template"
  | param => "param"
  | json => "json"
  | file => "file"
  | name => "name"
  | runtimePath => "runtime-path"

/-- The letter after one dash. -/
def short? : Switch → Option Char
  | verbose => some 'v'
  | help => some 'h'
  | version => some 'V'
  | param => some 'p'
  | _ => none

/-- Whether a switch takes a value. -/
def takesValue : Switch → Bool
  | verbose | help | version | json => false
  | _ => true

/-- Whether a switch may be given more than once. -/
def isRepeatable : Switch → Bool
  | param => true
  | _ => false

end Switch

namespace Command

/-- The word for a command. -/
def word : Command → String
  | eval => "eval"
  | check => "check"
  | tokens => "tokens"
  | generate => "generate"
  | help => "help"

/-- All commands. -/
def all : List Command :=
  [eval, check, tokens, generate, help]

/-- The command that a word names. -/
def ofWord? (word : String) : Option Command :=
  all.find? (·.word == word)

/-- The switches that are accepted after a command, or before there is one. -/
def switches : Option Command → List Switch
  | none => [.color, .verbose, .help, .version]
  | some eval => [.template, .param, .json, .color, .verbose, .help]
  | some check => [.file, .json, .color, .verbose, .help]
  | some tokens => [.template, .json, .color, .verbose, .help]
  | some generate => [.template, .name, .runtimePath, .color, .verbose, .help]
  | some help => []

/-- Whether operands are accepted after a command. -/
def takesOperands : Command → Bool
  | check | help => true
  | eval | tokens | generate => false

end Command

/-! ### Settings -/

/-- What the words after a command have set. -/
structure Settings where
  template : Option String
  /-- Names and their values, in the order in which they were given. -/
  params : List (String × String)
  json : Bool
  file : Option String
  name : String
  runtimePath : String
  operands : List String
  /-- The switches that were given. -/
  given : List Switch

/-- The settings before the first word. -/
def Settings.initial : Settings :=
  { template := none, params := [], json := false, file := none, name := "message"
    runtimePath := SourceStyle.standard.path, operands := [], given := [] }

/-- The two parts of a text around its first equals sign. -/
def splitPair? (text : String) : Option (String × String) :=
  let (name, rest) := text.toList.span (· != '=')
  match rest with
  | [] => none
  | _ :: value => some (String.ofList name, String.ofList value)

/-- Whether a generated function may have a name: ASCII letters, digits and underscores,
not a digit first and not an underscore alone. -/
def isFunctionName (name : String) : Bool :=
  match name.toList with
  | [] => false
  | c :: rest =>
    (c == '_' || c.isAlpha) && rest.all (fun c => c == '_' || c.isAlphanum) && name != "_"

namespace Settings

/-- The settings after a switch with a value; a switch without a value ignores it. -/
def set (settings : Settings) (switch : Switch) (value : String) : Except Stop Settings :=
  match switch with
  | .color =>
    if ["auto", "always", "never"].contains value then .ok settings else .error .usage
  | .verbose => .ok settings
  | .help => .error .help
  | .version => .error .version
  | .template => .ok { settings with template := some value }
  | .param =>
    match splitPair? value with
    | some pair => .ok { settings with params := settings.params ++ [pair] }
    | none => .error .usage
  | .json => .ok { settings with json := true }
  | .file => if value.isEmpty then .error .usage else .ok { settings with file := some value }
  | .name => if isFunctionName value then .ok { settings with name := value } else .error .usage
  | .runtimePath => .ok { settings with runtimePath := value }

/-- Gives a switch, which may not have been given before unless it is repeatable. -/
def give (settings : Settings) (switch : Switch) (value : String) : Except Stop Settings :=
  if settings.given.contains switch && !switch.isRepeatable then .error .usage
  else
    (settings.set switch value).map fun next => { next with given := switch :: next.given }

end Settings

/-! ### Reading words -/

/-- What has been read of the words so far. -/
structure Reader where
  command : Option Command
  settings : Settings
  /-- A switch that takes the next word as its value. -/
  pending : Option Switch
  /-- Whether every word that follows is an operand. -/
  onlyOperands : Bool

namespace Reader

/-- The reader before the first word. -/
def start : Reader :=
  { command := none, settings := Settings.initial, pending := none, onlyOperands := false }

/-- Gives a switch with a value. -/
def give (reader : Reader) (switch : Switch) (value : String) : Except Stop Reader :=
  (reader.settings.give switch value).map fun settings =>
    { reader with settings, pending := none }

/-- Reads the letters after one dash.  The letters after one that takes a value are its
value, with or without an equals sign between. -/
def readLetters (reader : Reader) : List Char → Except Stop Reader
  | [] => .ok reader
  | c :: rest =>
    match (Command.switches reader.command).find? (·.short? == some c) with
    | none => .error .usage
    | some switch =>
      if switch.takesValue then
        match rest with
        | [] => .ok { reader with pending := some switch }
        | '=' :: value => reader.give switch (String.ofList value)
        | value => reader.give switch (String.ofList value)
      else
        match reader.give switch "" with
        | .ok next => next.readLetters rest
        | .error stop => .error stop

/-- Reads what stands after two dashes: a name, and perhaps an equals sign and a
value. -/
def readLong (reader : Reader) (text : List Char) : Except Stop Reader :=
  let (name, attached) := text.span (· != '=')
  match (Command.switches reader.command).find? (·.long == String.ofList name) with
  | none => .error .usage
  | some switch =>
    match switch.takesValue, attached with
    | false, [] => reader.give switch ""
    | false, _ :: _ => .error .usage
    | true, [] => .ok { reader with pending := some switch }
    | true, _ :: value => reader.give switch (String.ofList value)

/-- Reads a word that is no switch: the command or an operand. -/
def readOperand (reader : Reader) (word : String) : Except Stop Reader :=
  match reader.command with
  | none =>
    match Command.ofWord? word with
    | some command =>
      if reader.onlyOperands then .error .usage
      else .ok { start with command := some command, onlyOperands := command == .help }
    | none => .error .usage
  | some command =>
    if command.takesOperands then
      let settings := reader.settings
      .ok { reader with settings := { settings with operands := settings.operands ++ [word] } }
    else .error .usage

/-- Reads one word. -/
def step (reader : Reader) (word : String) : Except Stop Reader :=
  match reader.pending with
  | some switch =>
    if word.startsWith "-" && word != "-" then .error .usage else reader.give switch word
  | none =>
    if reader.onlyOperands then reader.readOperand word
    else
      match word.toList with
      | ['-', '-'] => .ok { reader with onlyOperands := true }
      | '-' :: '-' :: text => reader.readLong text
      | '-' :: c :: rest => reader.readLetters (c :: rest)
      | _ => reader.readOperand word

end Reader

/-! ### Requests -/

/-- What the program is asked to do. -/
inductive Request where
  /-- Render a template with values. -/
  | eval (template : String) (params : List (String × String)) (json : Bool)
  /-- Check templates, those in the lines of a file included. -/
  | check (templates : List String) (file : Option String) (json : Bool)
  /-- List the tokens of a template. -/
  | tokens (template : String) (json : Bool)
  /-- Print the function compiled from a template. -/
  | generate (template name runtimePath : String)
deriving DecidableEq

/-- The template, which three of the commands need. -/
def Settings.needTemplate (settings : Settings) (request : String → Request) :
    Except Stop Request :=
  match settings.template with
  | some template => .ok (request template)
  | none => .error .usage

/-- The request at the end of the words. -/
def Reader.finish (reader : Reader) : Except Stop Request :=
  let settings := reader.settings
  match reader.pending, reader.command with
  | none, some .eval => settings.needTemplate (.eval · settings.params settings.json)
  | none, some .check => .ok (.check settings.operands settings.file settings.json)
  | none, some .tokens => settings.needTemplate (.tokens · settings.json)
  | none, some .generate =>
    settings.needTemplate (.generate · settings.name settings.runtimePath)
  | none, some .help =>
    if settings.operands.length ≤ 1 && settings.operands.all (Command.ofWord? · |>.isSome) then
      .error .help
    else .error .usage
  | _, _ => .error .usage

/-- The request that words make. -/
def Request.ofArguments (words : List String) : Except Stop Request :=
  match words.foldlM Reader.step Reader.start with
  | .ok reader => reader.finish
  | .error stop => .error stop

end CommandLine

end MessageTemplate
