import Descent.CommandLine.Arguments
import Descent.Describe

set_option autoImplicit false

/-!
The command: it parses a text with one of the bracket grammars and writes the state as a document.

The command is described without reading or writing anything. `Request.source?` tells what has to
be read, and `Request.reply` what has to be written, given what was read.
-/

namespace Descent.CommandLine

/-- Where a text is read from. -/
inductive Source where
  | file (name : String)
  | standardInput
  deriving DecidableEq, Repr

/-- The words for a source in messages. -/
def Source.words : Source → String
  | .file name => name
  | .standardInput => "stdin"

/-- Why a source cannot be read. -/
inductive ReadError where
  | missing
  | directory
  | notDirectory
  /-- The bytes are not text in UTF-8. -/
  | notText
  | other (message : String)
  deriving DecidableEq, Repr

/-- A reason in words. -/
def ReadError.message : ReadError → String
  | .missing => "No such file or directory (os error 2)"
  | .directory => "Is a directory (os error 21)"
  | .notDirectory => "Not a directory (os error 20)"
  | .notText => "stream did not contain valid UTF-8"
  | .other message => message

/-- What the command leaves behind. -/
structure Reply where
  code : Nat
  standardOutput : String
  standardError : String
  deriving DecidableEq, Repr

/-- The version of the command. -/
def versionText : String := "brackets 0.1.0\n"

/-- How to use the command. -/
def helpText : String :=
  "Parse text with a demonstration grammar and print the final state as JSON\n\n" ++
  "Usage: brackets [OPTIONS] [INPUT]\n\n" ++
  "Arguments:\n" ++
  "  [INPUT]  Text to parse. Read from stdin when neither this nor --file is given\n\n" ++
  "Options:\n" ++
  "  -f, --file <FILE>        \n" ++
  "  -g, --grammar <GRAMMAR>  [default: nested] [possible values: nested, tokens]\n" ++
  "  -p, --pretty             \n" ++
  "      --strict             Fail unless the whole input was consumed\n" ++
  "  -h, --help               Print help\n" ++
  "  -V, --version            Print version\n"

/-- The reply of a command that gives up, with a message. -/
def failure (written message : String) : Reply :=
  ⟨1, written, "Error: " ++ Text.quoted message ++ "\n"⟩

/-- A text without the line ends at its end. -/
def trimLineEnds (text : String) : String :=
  String.ofList (text.toList.reverse.dropWhile fun char => char = '\r' || char = '\n').reverse

/-- Why a state is not good enough for a strict command. -/
def complaint? (state : State String) : Option String :=
  if state.isComplete then none
  else
    match state.error with
    | some failure => some failure.message
    | none => some ("unexpected trailing input at index " ++ toString state.position)

namespace Settings

/-- What has to be read, if the text is not among the arguments. -/
def source? (settings : Settings) : Option Source :=
  match settings.input, settings.file with
  | some _, _ => none
  | none, some name => some (.file name)
  | none, none => some .standardInput

/-- The reply to a text. -/
def replyTo (settings : Settings) (text : String) : Reply :=
  let state := settings.kind.parse text
  let document := state.toJson
  let written := (if settings.pretty then document.pretty else document.compact) ++ "\n"
  match complaint? state with
  | some message => if settings.strict then failure written message else ⟨0, written, ""⟩
  | none => ⟨0, written, ""⟩

/-- The reply to the bytes of a source, which lose the line ends at their end. -/
def replyToSource (settings : Settings) (source : Source)
    (content : Except ReadError ByteArray) : Reply :=
  let refuse (error : ReadError) : Reply :=
    failure "" ("Failed to read " ++ source.words ++ ": " ++ error.message)
  match content with
  | .error error => refuse error
  | .ok bytes =>
    match String.fromUTF8? bytes with
    | none => refuse .notText
    | some text => settings.replyTo (trimLineEnds text)

end Settings

/-- The reply to arguments that are refused. What is written then is not settled here. -/
def refusal : Reply := ⟨2, "", ""⟩

/-- What has to be read for a request. -/
def Request.source? : Request → Option Source
  | .parse settings => settings.source?
  | _ => none

/-- The reply to a request, given how its source is read. -/
def Request.reply (request : Request) (read : Source → Except ReadError ByteArray) : Reply :=
  match request with
  | .help => ⟨0, helpText, ""⟩
  | .version => ⟨0, versionText, ""⟩
  | .parse settings =>
    match settings.input, settings.source? with
    | some text, _ => settings.replyTo text
    | none, some source => settings.replyToSource source (read source)
    | none, none => refusal

/-- The reply to the arguments of the command, given how a source is read. -/
def reply (arguments : List String) (read : Source → Except ReadError ByteArray) : Reply :=
  match readArguments? arguments with
  | some request => request.reply read
  | none => refusal

end Descent.CommandLine
