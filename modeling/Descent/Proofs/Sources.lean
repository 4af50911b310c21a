import Descent.CommandLine
import Mathlib.Data.List.DropRight

set_option autoImplicit false

/-!
Where the command takes its text from.

A text comes from the arguments as it is, or from a source up to the line ends after it
(`Settings.Supplies`), or there is none (`Settings.Lacks`). What is written then depends on the text
and on the options only, so that the ways to hand a text over are as good as each other.
-/

namespace Descent.CommandLine

/-! ## Bytes and line ends -/

/-- Bytes are decoded to a text if and only if they are the ones that encode it. -/
theorem fromUTF8?_eq_some_iff {bytes : ByteArray} {text : String} :
    String.fromUTF8? bytes = some text ↔ text.toUTF8 = bytes := by
  constructor
  · intro decoded
    unfold String.fromUTF8? at decoded
    split at decoded
    · obtain rfl := Option.some.inj decoded
      rfl
    · contradiction
  · rintro rfl
    exact dif_pos text.isValidUTF8

def isLineEnd (char : Char) : Bool := char = '\r' || char = '\n'

/-- Line ends follow a text that has none at its own end. -/
structure LineEnded (text ends : String) : Prop where
  ends : ∀ char ∈ ends.toList, isLineEnd char = true
  last : text.toList.getLast?.any isLineEnd = false

theorem trimLineEnds_eq (text : String) :
    trimLineEnds text = String.ofList (text.toList.rdropWhile isLineEnd) := rfl

theorem LineEnded.trim {text ends : String} (ended : LineEnded text ends) :
    trimLineEnds (text ++ ends) = text := by
  have drops : ∀ char ∈ ends.toList.reverse, isLineEnd char = true := by simpa using ended.ends
  have stays : text.toList.rdropWhile isLineEnd = text.toList := by
    refine List.rdropWhile_eq_self_iff.mpr fun nonempty => ?_
    have last := ended.last
    rw [List.getLast?_eq_some_getLast nonempty] at last
    simpa using last
  rw [List.rdropWhile] at stays
  rw [trimLineEnds_eq, List.rdropWhile, String.toList_append, List.reverse_append,
    List.dropWhile_append_of_pos drops, stays, String.ofList_toList]

/-- Every text is cut into what remains of it and the line ends after that. -/
theorem exists_lineEnded (content : String) :
    ∃ text ends, content = text ++ ends ∧ LineEnded text ends := by
  refine ⟨trimLineEnds content, .ofList (content.toList.rtakeWhile isLineEnd), ?_, ?_, ?_⟩
  · rw [trimLineEnds_eq, ← String.ofList_append, List.rdropWhile_append_rtakeWhile,
      String.ofList_toList]
  · rw [String.toList_ofList]
    exact fun char => List.mem_rtakeWhile_imp
  · rw [trimLineEnds_eq, String.toList_ofList]
    by_cases nonempty : content.toList.rdropWhile isLineEnd = []
    · rw [nonempty]
      rfl
    · rw [List.getLast?_eq_some_getLast nonempty]
      simpa using List.rdropWhile_last_not isLineEnd content.toList nonempty

namespace Settings

variable {settings : Settings} {read : Source → Except ReadError ByteArray}

/-- The text to be parsed: the one among the arguments as it is, or that of a source without the
line ends after it. -/
inductive Supplies (settings : Settings) (read : Source → Except ReadError ByteArray)
    (text : String) : Prop where
  | argument : settings.input = some text → Supplies settings read text
  | source {source : Source} {ends : String} : settings.source? = some source →
      read source = .ok (text ++ ends).toUTF8 → LineEnded text ends → Supplies settings read text

/-- There is no text: a source cannot be read, or its bytes are not those of a text. -/
inductive Lacks (settings : Settings) (read : Source → Except ReadError ByteArray) :
    Source → ReadError → Prop where
  | unread {source : Source} {error : ReadError} : settings.source? = some source →
      read source = .error error → Lacks settings read source error
  | undecoded {source : Source} {bytes : ByteArray} : settings.source? = some source →
      read source = .ok bytes → (∀ text : String, text.toUTF8 ≠ bytes) →
      Lacks settings read source .notText

/-- There is a text, or else a reason for its lack. -/
theorem supplies_or_lacks (settings : Settings) (read : Source → Except ReadError ByteArray) :
    (∃ text, settings.Supplies read text) ∨ ∃ source error, settings.Lacks read source error := by
  cases input : settings.input with
  | some text => exact .inl ⟨text, .argument input⟩
  | none =>
    obtain ⟨source, wanted⟩ : ∃ source, settings.source? = some source := by
      cases file : settings.file with
      | none => exact ⟨.standardInput, by simp [source?, input, file]⟩
      | some name => exact ⟨.file name, by simp [source?, input, file]⟩
    cases content : read source with
    | error error => exact .inr ⟨source, error, .unread wanted content⟩
    | ok bytes =>
      cases decoded : String.fromUTF8? bytes with
      | none =>
        refine .inr ⟨source, .notText, .undecoded wanted content ?_⟩
        intro text encodes
        rw [fromUTF8?_eq_some_iff.mpr encodes] at decoded
        contradiction
      | some whole =>
        obtain ⟨text, ends, rfl, ended⟩ := exists_lineEnded whole
        have bytes := fromUTF8?_eq_some_iff.mp decoded
        exact .inl ⟨text, .source wanted (by rw [content, bytes]) ended⟩

theorem input_of_source? {source : Source} (wanted : settings.source? = some source) :
    settings.input = none := by
  cases input : settings.input with
  | none => rfl
  | some text => simp [source?, input] at wanted

theorem reply_of_source? {source : Source} (wanted : settings.source? = some source) :
    (Request.parse settings).reply read = settings.replyToSource source (read source) := by
  rw [Request.reply, wanted, input_of_source? wanted]

theorem Supplies.reply {text : String} (supplies : settings.Supplies read text) :
    (Request.parse settings).reply read = settings.replyTo text := by
  cases supplies with
  | argument given => rw [Request.reply, given]
  | source wanted content ended =>
    rw [reply_of_source? wanted, content, replyToSource, fromUTF8?_eq_some_iff.mpr rfl]
    exact congrArg settings.replyTo ended.trim

theorem Lacks.reply {source : Source} {error : ReadError}
    (lacks : settings.Lacks read source error) :
    (Request.parse settings).reply read =
      failure "" ("Failed to read " ++ source.words ++ ": " ++ error.message) := by
  cases lacks with
  | unread wanted content => rw [reply_of_source? wanted, content, replyToSource]
  | undecoded wanted content other =>
    rw [reply_of_source? wanted, content, replyToSource]
    cases decoded : String.fromUTF8? _ with
    | none => rfl
    | some text => exact absurd (fromUTF8?_eq_some_iff.mp decoded) (other text)

end Settings

theorem reply_of_accepted {arguments : List String} {request : Request}
    (accepted : readArguments? arguments = some request)
    (read : Source → Except ReadError ByteArray) :
    reply arguments read = request.reply read := by
  rw [reply, accepted]

end Descent.CommandLine
