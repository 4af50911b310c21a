import Descent.Proofs.Sources

set_option autoImplicit false

/-!
The ways to hand a text over to the command.

All settings that arguments can lead to are spelled as arguments (`Settings.words`), and a text that
is given as an argument, in a file or at the standard input is answered in the same way.
-/

namespace Descent.CommandLine

variable {settings : Settings}

theorem readFrom?_long {argument : String} {letter : Char} {word : List Char} {progress : Progress}
    (long : argument.toList = '-' :: '-' :: letter :: word)
    (known : readLong? settings (letter :: word) = some progress) (rest : List String) :
    readFrom? (.ready settings) (argument :: rest) = readFrom? progress rest := by
  simp only [readFrom?, long, known]

namespace Settings

def grammarWord : Brackets.Kind → String
  | .nested => "--grammar=nested"
  | .tokens => "--grammar=tokens"

/-- Settings as arguments. Nothing after two hyphens is taken for an option. -/
def words (settings : Settings) : List String :=
  settings.grammar.toList.map grammarWord ++
    ((if settings.pretty then ["--pretty"] else []) ++
      ((if settings.strict then ["--strict"] else []) ++
        (settings.file.toList.map ("--file=" ++ ·) ++
          settings.input.toList.flatMap (["--", ·]))))

theorem readFrom?_grammar (unset : settings.grammar = none) (grammar : Option Brackets.Kind)
    (rest : List String) :
    readFrom? (.ready settings) (grammar.toList.map grammarWord ++ rest) =
      readFrom? (.ready { settings with grammar }) rest := by
  cases grammar with
  | none =>
    have same : { settings with grammar := none } = settings := by rw [← unset]
    rw [same]
    rfl
  | some kind =>
    have known : readLong? settings ((grammarWord kind).toList.drop 2) =
        some (.ready { settings with grammar := some kind }) := by
      cases kind <;> simp [readLong?, grammarWord, longOption?, setValue?, unset, grammarNamed?]
    cases kind <;> exact readFrom?_long rfl known rest

theorem readFrom?_switch {after : Settings} {flag : Bool} {argument : String} {letter : Char}
    {word : List Char} (long : argument.toList = '-' :: '-' :: letter :: word)
    (off : flag = false → after = settings)
    (on : flag = true → readLong? settings (letter :: word) = some (.ready after))
    (rest : List String) :
    readFrom? (.ready settings) ((if flag then [argument] else []) ++ rest) =
      readFrom? (.ready after) rest := by
  cases flag with
  | false =>
    rw [off rfl]
    rfl
  | true => exact readFrom?_long long (on rfl) rest

theorem readFrom?_pretty (unset : settings.pretty = false) (pretty : Bool) (rest : List String) :
    readFrom? (.ready settings) ((if pretty then ["--pretty"] else []) ++ rest) =
      readFrom? (.ready { settings with pretty }) rest := by
  have long : "--pretty".toList = '-' :: '-' :: 'p' :: "retty".toList := rfl
  refine readFrom?_switch long (fun off => ?_) (fun on => ?_) rest
  · rw [off, ← unset]
  · simp [readLong?, longOption?, turnOn?, unset, on]

theorem readFrom?_strict (unset : settings.strict = false) (strict : Bool) (rest : List String) :
    readFrom? (.ready settings) ((if strict then ["--strict"] else []) ++ rest) =
      readFrom? (.ready { settings with strict }) rest := by
  have long : "--strict".toList = '-' :: '-' :: 's' :: "trict".toList := rfl
  refine readFrom?_switch long (fun off => ?_) (fun on => ?_) rest
  · rw [off, ← unset]
  · simp [readLong?, longOption?, turnOn?, unset, on]

theorem readFrom?_file (unset : settings.file = none) {file : Option String}
    (named : file ≠ some "") (rest : List String) :
    readFrom? (.ready settings) (file.toList.map ("--file=" ++ ·) ++ rest) =
      readFrom? (.ready { settings with file }) rest := by
  cases file with
  | none =>
    have same : { settings with file := none } = settings := by rw [← unset]
    rw [same]
    rfl
  | some name =>
    have named : name ≠ "" := fun empty => named (congrArg some empty)
    have word : ("--file=" ++ name).toList =
        '-' :: '-' :: 'f' :: ("ile=".toList ++ name.toList) := by
      rw [String.toList_append]
      rfl
    have known : readLong? settings ('f' :: ("ile=".toList ++ name.toList)) =
        some (.ready { settings with file := some name }) := by
      simp [readLong?, longOption?, setValue?, unset, named]
    exact readFrom?_long word known rest

theorem readFrom?_input (unset : settings.input = none) (input : Option String)
    (single : input = none ∨ settings.file = none) :
    readFrom? (.ready settings) (input.toList.flatMap (["--", ·])) =
      some (.parse { settings with input }) := by
  cases input with
  | none =>
    have same : { settings with input := none } = settings := by rw [← unset]
    simp [readFrom?, check?, unset, same]
  | some text =>
    have single : settings.file = none := by simpa using single
    simp [readFrom?, readInputs?, setInput?, check?, unset, single]

/-- The words for settings lead to these settings, unless text and file exclude each other or the
file has no name. -/
theorem readArguments?_words (settings : Settings)
    (single : settings.input = none ∨ settings.file = none)
    (named : settings.file ≠ some "") :
    readArguments? settings.words = some (.parse settings) := by
  rw [readArguments?, words, readFrom?_grammar rfl, readFrom?_pretty rfl, readFrom?_strict rfl,
    readFrom?_file rfl named]
  exact readFrom?_input rfl settings.input single

end Settings

/-- What can be chosen beside the text. -/
structure Options where
  grammar : Option Brackets.Kind
  pretty : Bool
  strict : Bool

namespace Options

def withText (options : Options) (text : String) : Settings :=
  { options with input := some text }

def withFile (options : Options) (name : String) : Settings :=
  { options with file := some name }

def withStandardInput (options : Options) : Settings := { options with }

end Options

/-- A text is answered in the same way as an argument, in a file, and at the standard input, with
line ends after it or without, and there are arguments for each of these. -/
theorem inputs_agree (options : Options) {text ends name : String} (named : name ≠ "")
    (ended : LineEnded text ends) :
    (readArguments? (options.withText text).words = some (.parse (options.withText text)) ∧
        readArguments? (options.withFile name).words = some (.parse (options.withFile name)) ∧
        readArguments? options.withStandardInput.words =
          some (.parse options.withStandardInput)) ∧
      ∀ {given inFile piped : List String}
        {read readFile readInput : Source → Except ReadError ByteArray},
        readArguments? given = some (.parse (options.withText text)) →
        readArguments? inFile = some (.parse (options.withFile name)) →
        readArguments? piped = some (.parse options.withStandardInput) →
        readFile (.file name) = .ok (text ++ ends).toUTF8 →
        readInput .standardInput = .ok (text ++ ends).toUTF8 →
        reply inFile readFile = reply given read ∧ reply piped readInput = reply given read := by
  refine ⟨⟨?_, ?_, ?_⟩, ?_⟩
  · exact Settings.readArguments?_words _ (.inr rfl) nofun
  · exact Settings.readArguments?_words _ (.inl rfl) (by simpa [Options.withFile] using named)
  · exact Settings.readArguments?_words _ (.inl rfl) nofun
  · intro given inFile piped read readFile readInput accepted acceptedFile acceptedInput inside
      incoming
    have supplies : (options.withText text).Supplies read text := .argument rfl
    have suppliesFile : (options.withFile name).Supplies readFile text := .source rfl inside ended
    have suppliesInput : options.withStandardInput.Supplies readInput text :=
      .source rfl incoming ended
    rw [reply_of_accepted accepted, reply_of_accepted acceptedFile, reply_of_accepted acceptedInput,
      supplies.reply, suppliesFile.reply, suppliesInput.reply]
    exact ⟨rfl, rfl⟩

/-- A list is answered in the same way with an empty line after it. -/
theorem list_agrees :
    reply ["--pretty", "--file=list"] (fun _ => .ok "[1]\r\n\n".toUTF8) =
        reply ["--pretty", "--", "[1]"] (fun _ => .error .missing) ∧
      reply ["--pretty"] (fun _ => .ok "[1]\r\n\n".toUTF8) =
        reply ["--pretty", "--", "[1]"] (fun _ => .error .missing) := by
  have named : "list" ≠ "" := by decide
  have ended : LineEnded "[1]" "\r\n\n" := ⟨by simp [isLineEnd], rfl⟩
  obtain ⟨⟨given, inFile, piped⟩, agree⟩ := inputs_agree ⟨none, true, false⟩ named ended
  exact agree given inFile piped rfl rfl

end Descent.CommandLine
