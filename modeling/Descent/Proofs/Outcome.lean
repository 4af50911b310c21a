import Descent.Proofs.Layouts
import Descent.Proofs.Remaining
import Descent.Proofs.Sources
import Descent.Proofs.Tokens
import Descent.Proofs.TooDeep

set_option autoImplicit false

/-!
What the command leaves behind.

A text that is supplied is answered by the document of its state. Only a strict command looks at the
state again, and gives up unless the grammar describes the text as a whole
(`Kind.completes_iff`).
-/

namespace Descent

namespace Brackets

/-- What a grammar describes, from the first character to the last. -/
def Kind.Describes : Kind → List Char → Prop
  | .nested, text =>
    ∃ items, Renders (.list items) text ∧ (Output.list items).listDepth ≤ 256
  | .tokens, text =>
    ∃ inside, text = '(' :: (inside ++ [')']) ∧ ∀ char ∈ inside, char.isAlphanum = true

/-- The parse succeeds and leaves nothing over. -/
def Kind.Completes (kind : Kind) (text : String) : Prop :=
  (kind.parse text).failed = false ∧ (kind.parse text).position = Text.byteLength text.toList

theorem Kind.parser_standard (kind : Kind) : kind.parser.Standard := by
  cases kind with
  | nested => exact nestedWithin_standard ..
  | tokens => exact tokens_standard

theorem Kind.text_parse (kind : Kind) (text : String) : (kind.parse text).text = text :=
  (Parser.apply_advances (grammarWithin_standard _) kind.parser_standard (.start text)).text_eq

theorem Kind.isComplete_iff (kind : Kind) (text : String) :
    (kind.parse text).isComplete = true ↔ kind.Completes text := by
  simp [State.isComplete, Completes, kind.text_parse]

theorem nested_completes_iff (text : String) :
    Kind.nested.Completes text ↔ Kind.nested.Describes text.toList := by
  constructor
  · rintro ⟨succeeds, whole⟩
    obtain ⟨⟨items, result⟩, shallow, written, rest, remains, length, renders⟩ :=
      (nestedWithin_accepts_iff 256 text _ _).mp ⟨succeeds, whole, rfl⟩
    have all : written = text.toList :=
      Text.append_inj_of_byteLength (remains.symm.trans (List.append_nil _).symm) length
    rw [result] at renders shallow
    exact ⟨items, all ▸ renders, shallow⟩
  · rintro ⟨items, renders, shallow⟩
    obtain ⟨succeeds, position, _⟩ := (nestedWithin_accepts_iff 256 text _ _).mpr
      ⟨⟨items, rfl⟩, shallow, text.toList, [], (List.append_nil _).symm, rfl, renders⟩
    exact ⟨succeeds, position⟩

theorem tokenRun_of_closed {text : String} {inside rest : List Char}
    (written : text.toList = '(' :: (inside ++ ')' :: rest))
    (all : ∀ char ∈ inside, char.isAlphanum = true) :
    tokenRun text = inside ∧ afterTokenRun text = ')' :: rest := by
  have stops : Char.isAlphanum ')' = false := rfl
  rw [tokenRun, afterTokenRun, written, List.tail_cons, List.takeWhile_append_of_pos all,
    List.dropWhile_append_of_pos all]
  simp [stops]

theorem tokens_completes_iff (text : String) :
    Kind.tokens.Completes text ↔ Kind.tokens.Describes text.toList := by
  have start : (State.start text : State String).rest = text.toList := Parser.rest_start text
  constructor
  · rintro ⟨succeeds, whole⟩
    cases tokens_outcome text with
    | unopened _ stops => exact absurd (stops.failed.symm.trans succeeds) (by simp)
    | unclosed _ _ stops => exact absurd (stops.failed.symm.trans succeeds) (by simp)
    | complete _ _ _ reads =>
      -- As many bytes are read as the text has, so that what is read is the text.
      have length := (reads.position.trans (Nat.zero_add _)).symm.trans whole
      have remains := (start.symm.trans reads.remains).symm.trans (List.append_nil _).symm
      refine ⟨tokenRun text, (Text.append_inj_of_byteLength remains length).symm, ?_⟩
      exact List.all_eq_true.mp List.all_takeWhile
  · rintro ⟨inside, written, all⟩
    obtain ⟨run, rest⟩ := tokenRun_of_closed written all
    cases tokens_outcome text with
    | unopened other _ => exact absurd (by rw [written, List.head?_cons]) other
    | unclosed _ other _ => exact absurd (by rw [rest, List.head?_cons]) other
    | complete _ _ _ reads =>
      refine ⟨reads.failed, ?_⟩
      rw [reads.position, run, written]
      exact Nat.zero_add _

/-- A parse is complete if and only if the grammar describes the whole text. -/
theorem Kind.completes_iff (kind : Kind) (text : String) :
    kind.Completes text ↔ kind.Describes text.toList := by
  cases kind with
  | nested => exact nested_completes_iff text
  | tokens => exact tokens_completes_iff text

end Brackets

namespace CommandLine

open Brackets (Kind)

def errorText (message : String) : String := "Error: " ++ Text.quoted message ++ "\n"

/-- What is said of a state that is not complete: its failure, or else where the rest begins. -/
inductive Complains (state : State String) : String → Prop where
  | failed {failure : Failure} : state.error = some failure → Complains state failure.message
  | leftOver : state.error = none →
      Complains state ("unexpected trailing input at index " ++ toString state.position)

/-- The reply to a text. The document is read as the state of the parse, and as nothing else. -/
structure Answers (settings : Settings) (text : String) (reply : Reply) : Prop where
  document : ∃ document, reply.standardOutput = document ++ "\n" ∧
    ∀ shown, Json.ReadFrom State.Shown.ofJson? document shown ↔
      shown = (settings.kind.parse text).shown
  refuses : reply.code = 1 ↔ settings.strict = true ∧ ¬settings.kind.Completes text
  refuses_undescribed : reply.code = 1 ↔
    settings.strict = true ∧ ¬settings.kind.Describes text.toList
  complaint : reply.code = 1 → ∃ message, Complains (settings.kind.parse text) message ∧
    reply.standardError = errorText message
  accepts : reply.code ≠ 1 → reply.code = 0 ∧ reply.standardError = ""

namespace Settings

variable {settings : Settings}

def style (settings : Settings) : Json.Style := if settings.pretty then .pretty else .compact

theorem standardOutput_replyTo (settings : Settings) (text : String) :
    (settings.replyTo text).standardOutput =
      settings.style.write (settings.kind.parse text).toJson ++ "\n" := by
  have written : (if settings.pretty then (settings.kind.parse text).toJson.pretty
      else (settings.kind.parse text).toJson.compact) =
      settings.style.write (settings.kind.parse text).toJson := by
    unfold style
    split <;> rfl
  rw [replyTo, written]
  split
  · split <;> rfl
  · rfl

/-- Without blanks there is one text for each grammar. -/
theorem squeeze_replyTo (settings : Settings) (text : String) :
    Json.squeeze (settings.replyTo text).standardOutput =
      (settings.kind.parse text).toJson.compact := by
  rw [standardOutput_replyTo]
  exact settings.style.squeeze_write _ (.cons rfl .nil)

/-- A strict command gives up if the parse is not complete. -/
theorem replyTo_of_refused {text : String} (strict : settings.strict = true)
    (incomplete : ¬settings.kind.Completes text) :
    ∃ message, Complains (settings.kind.parse text) message ∧
      (settings.replyTo text).code = 1 ∧
        (settings.replyTo text).standardError = errorText message := by
  have unfinished := fun complete => incomplete ((settings.kind.isComplete_iff text).mp complete)
  rw [replyTo, complaint?, if_neg unfinished]
  cases error : (settings.kind.parse text).error with
  | none => exact ⟨_, .leftOver error, by simp [strict, failure, errorText]⟩
  | some failure => exact ⟨_, .failed error, by simp [strict, CommandLine.failure, errorText]⟩

theorem replyTo_of_accepted {text : String}
    (accepted : settings.strict = true → settings.kind.Completes text) :
    (settings.replyTo text).code = 0 ∧ (settings.replyTo text).standardError = "" := by
  rw [replyTo]
  split
  next message refused =>
    cases strict : settings.strict with
    | false => exact ⟨rfl, rfl⟩
    | true =>
      have complete := (settings.kind.isComplete_iff text).mpr (accepted strict)
      rw [complaint?, if_pos complete] at refused
      contradiction
  next => exact ⟨rfl, rfl⟩

theorem answers_replyTo (settings : Settings) (text : String) :
    Answers settings text (settings.replyTo text) := by
  have document : ∃ document, (settings.replyTo text).standardOutput = document ++ "\n" ∧
      ∀ shown, Json.ReadFrom State.Shown.ofJson? document shown ↔
        shown = (settings.kind.parse text).shown :=
    ⟨_, standardOutput_replyTo settings text,
      fun _ => Json.readFrom_write_iff settings.style (State.ofJson?_toJson _)⟩
  have refuses : (settings.replyTo text).code = 1 ↔
      settings.strict = true ∧ ¬settings.kind.Completes text := by
    constructor
    · intro code
      by_contra accepted
      obtain ⟨other, _⟩ := replyTo_of_accepted (by simpa using accepted)
      exact absurd (code.symm.trans other) (by simp)
    · rintro ⟨strict, incomplete⟩
      obtain ⟨_, _, code, _⟩ := replyTo_of_refused strict incomplete
      exact code
  have undescribed := refuses
  rw [settings.kind.completes_iff] at undescribed
  refine ⟨document, refuses, undescribed, fun code => ?_, fun other => ?_⟩
  · obtain ⟨strict, incomplete⟩ := refuses.mp code
    obtain ⟨message, complains, _, error⟩ := replyTo_of_refused strict incomplete
    exact ⟨message, complains, error⟩
  · refine replyTo_of_accepted fun strict => ?_
    by_contra incomplete
    exact other (refuses.mpr ⟨strict, incomplete⟩)

end Settings

/-- Whatever is read, arguments that are accepted lead to the reply for the lack of a text, or to
the one for the text supplied. Its document is the same, up to blanks outside quotes, for all
arguments that choose the grammar and supply the text, and the same altogether for those in the same
style. -/
theorem reply_settles {arguments : List String} {settings : Settings}
    (accepted : readArguments? arguments = some (.parse settings))
    (read : Source → Except ReadError ByteArray) :
    ((∃ text, settings.Supplies read text) ∨ ∃ source error, settings.Lacks read source error) ∧
      (∀ {source : Source} {error : ReadError}, settings.Lacks read source error →
        reply arguments read =
          ⟨1, "", errorText ("Failed to read " ++ source.words ++ ": " ++ error.message)⟩) ∧
      ∀ {text : String}, settings.Supplies read text →
        Answers settings text (reply arguments read) ∧
          ∀ {arguments' : List String} {settings' : Settings}
            {read' : Source → Except ReadError ByteArray},
            readArguments? arguments' = some (.parse settings') → settings'.kind = settings.kind →
            settings'.Supplies read' text →
            Json.squeeze (reply arguments' read').standardOutput =
                Json.squeeze (reply arguments read).standardOutput ∧
              (settings'.pretty = settings.pretty →
                (reply arguments' read').standardOutput =
                  (reply arguments read).standardOutput) := by
  rw [reply_of_accepted accepted]
  refine ⟨settings.supplies_or_lacks read, fun lacks => lacks.reply, ?_⟩
  intro text supplies
  rw [supplies.reply]
  refine ⟨settings.answers_replyTo text, ?_⟩
  intro arguments' settings' read' accepted' kind supplies'
  rw [reply_of_accepted accepted', supplies'.reply]
  constructor
  · rw [Settings.squeeze_replyTo, Settings.squeeze_replyTo, kind]
  · intro pretty
    rw [Settings.standardOutput_replyTo, Settings.standardOutput_replyTo, Settings.style, pretty,
      kind]
    rfl

/-- A strict command gives up on a character after the list, once the list is written. -/
theorem trailing_refused :
    (reply ["--strict", "[1]x"] fun _ => .error .missing).code = 1 ∧
      (reply ["--strict", "[1]x"] fun _ => .error .missing).standardError =
        "Error: \"unexpected trailing input at index 3\"\n" := by
  have accepted : readArguments? ["--strict", "[1]x"] =
      some (.parse { input := some "[1]x", strict := true }) := rfl
  obtain ⟨_, _, supplied⟩ := reply_settles accepted fun _ => .error .missing
  obtain ⟨answers, _⟩ := supplied (.argument rfl)
  have incomplete : ¬Kind.nested.Completes "[1]x" := by
    rintro ⟨_, position⟩
    exact absurd position (by decide +kernel)
  have code := answers.refuses.mpr ⟨rfl, incomplete⟩
  refine ⟨code, ?_⟩
  obtain ⟨message, complains, written⟩ := answers.complaint code
  rw [written]
  cases complains with
  | @failed failure error =>
    have none : (Kind.nested.parse "[1]x").error = none := by decide +kernel
    exact absurd (none.symm.trans error) (by simp)
  | leftOver _ => decide +kernel

end CommandLine

end Descent
