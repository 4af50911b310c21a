import Descent.Brackets

set_option autoImplicit false

/-!
The arguments of the command.

Arguments are read from left to right. An option that asks for the version or for help is answered
at once, before a later argument can be refused, but not before an earlier one. Short options can
be written in one word, and the value of an option in the same word or in the next one.
-/

namespace Descent.CommandLine

/-- What the arguments have set so far. -/
structure Settings where
  /-- The text to be parsed. -/
  input : Option String := none
  /-- The file to be parsed. -/
  file : Option String := none
  grammar : Option Brackets.Kind := none
  pretty : Bool := false
  strict : Bool := false
  deriving DecidableEq, Repr

/-- What the arguments ask for. -/
inductive Request where
  | help
  | version
  | parse (settings : Settings)
  deriving DecidableEq, Repr

/-- The options that need a value. -/
inductive ValueOption where
  | file
  | grammar
  deriving DecidableEq, Repr

/-- The options that stand alone. -/
inductive Switch where
  | pretty
  | strict
  | help
  | version
  deriving DecidableEq, Repr

/-- An option. -/
inductive CommandOption where
  | valued (option : ValueOption)
  | switch (switch : Switch)
  deriving DecidableEq, Repr

/-- The option of a long name. -/
def longOption? : String → Option CommandOption
  | "file" => some (.valued .file)
  | "grammar" => some (.valued .grammar)
  | "pretty" => some (.switch .pretty)
  | "strict" => some (.switch .strict)
  | "help" => some (.switch .help)
  | "version" => some (.switch .version)
  | _ => none

/-- The option of a letter. -/
def shortOption? : Char → Option CommandOption
  | 'f' => some (.valued .file)
  | 'g' => some (.valued .grammar)
  | 'p' => some (.switch .pretty)
  | 'h' => some (.switch .help)
  | 'V' => some (.switch .version)
  | _ => none

/-- The grammar of a name. -/
def grammarNamed? : String → Option Brackets.Kind
  | "nested" => some .nested
  | "tokens" => some .tokens
  | _ => none

namespace Settings

/-- Sets the text, once only. -/
def setInput? (settings : Settings) (text : String) : Option Settings :=
  if settings.input.isSome then none else some { settings with input := some text }

/-- Sets an option with a value, once only. The name of a file must not be empty. -/
def setValue? (settings : Settings) (option : ValueOption) (value : String) : Option Settings :=
  match option with
  | .file =>
    if settings.file.isSome || value.isEmpty then none
    else some { settings with file := some value }
  | .grammar =>
    if settings.grammar.isSome then none
    else (grammarNamed? value).map fun kind => { settings with grammar := some kind }

/-- The grammar set, or the one taken without any. -/
def kind (settings : Settings) : Brackets.Kind := settings.grammar.getD .nested

/-- Checks what can only be seen in the end: a text and a file exclude each other. -/
def check? (settings : Settings) : Option Settings :=
  if settings.input.isSome && settings.file.isSome then none else some settings

end Settings

/-- Where the reading of arguments stands after one of them. -/
inductive Progress where
  /-- All is set. -/
  | ready (settings : Settings)
  /-- The next argument has to be the value of an option. -/
  | waiting (settings : Settings) (option : ValueOption)
  /-- The request is known, whatever follows. -/
  | answered (request : Request)

/-- Turns on a switch, once only. -/
def Settings.turnOn? (settings : Settings) : Switch → Option Progress
  | .pretty => if settings.pretty then none else some (.ready { settings with pretty := true })
  | .strict => if settings.strict then none else some (.ready { settings with strict := true })
  | .help => some (.answered .help)
  | .version => some (.answered .version)

/-- A word of short options. The value of an option is the rest of the word, after an equals sign
if there is one. -/
def readShort? (settings : Settings) : List Char → Option Progress
  | [] => some (.ready settings)
  | letter :: rest =>
    match shortOption? letter with
    | none => none
    | some (.valued option) =>
      match rest with
      | [] => some (.waiting settings option)
      | '=' :: value => (settings.setValue? option (String.ofList value)).map .ready
      | value => (settings.setValue? option (String.ofList value)).map .ready
    | some (.switch switch) =>
      match settings.turnOn? switch with
      | some (.ready settings) => readShort? settings rest
      | progress => progress

/-- A long option, with its value if the word has an equals sign. -/
def readLong? (settings : Settings) (word : List Char) : Option Progress :=
  let name := String.ofList (word.takeWhile (· ≠ '='))
  let value? :=
    match word.dropWhile (· ≠ '=') with
    | _ :: value => some (String.ofList value)
    | [] => none
  match longOption? name, value? with
  | none, _ => none
  | some (.valued option), some value => (settings.setValue? option value).map .ready
  | some (.valued option), none => some (.waiting settings option)
  | some (.switch switch), none => settings.turnOn? switch
  | some (.switch _), some _ => none

/-- Texts only, after the arguments that can be options. -/
def readInputs? (settings : Settings) : List String → Option Request
  | [] => settings.check?.map .parse
  | text :: rest =>
    match settings.setInput? text with
    | some settings => readInputs? settings rest
    | none => none

/-- Reads arguments from a point on; nothing, if they are refused. -/
def readFrom? : Progress → List String → Option Request
  | .answered request, _ => some request
  | .waiting _ _, [] => none
  | .waiting settings option, argument :: rest =>
    match argument.toList with
    | '-' :: _ :: _ => none
    | _ =>
      match settings.setValue? option argument with
      | some settings => readFrom? (.ready settings) rest
      | none => none
  | .ready settings, [] => settings.check?.map .parse
  | .ready settings, argument :: rest =>
    match argument.toList with
    | ['-', '-'] => readInputs? settings rest
    | '-' :: '-' :: word =>
      match readLong? settings word with
      | some progress => readFrom? progress rest
      | none => none
    | '-' :: letter :: letters =>
      match readShort? settings (letter :: letters) with
      | some progress => readFrom? progress rest
      | none => none
    | _ =>
      match settings.setInput? argument with
      | some settings => readFrom? (.ready settings) rest
      | none => none

/-- What the arguments of the command ask for; nothing, if they are refused. -/
def readArguments? (arguments : List String) : Option Request :=
  readFrom? (.ready {}) arguments

end Descent.CommandLine
