import Descent.Trace

set_option autoImplicit false

/-!
The log of a parser: what it reports of the events while it works.

A lazily built parser is reported when it is built, which is the first time that it is entered, or
the first time since a parser that it is a part of was built anew. Since a parser keeps what it has
built, the log of a text depends on what was built for the texts before it; the states do not.
-/

namespace Descent

/-- How important a record is. -/
inductive Level where
  | debug
  | trace
  deriving DecidableEq, Repr

/-- The part of the library that reports. -/
inductive Reporter where
  /-- The start and the end of a text. -/
  | engine
  /-- The matchers. -/
  | matchers
  /-- The building of lazily built parsers. -/
  | building
  /-- The choice between alternatives. -/
  | choosing
  deriving DecidableEq, Repr

/-- One record of a log. -/
structure Record where
  level : Level
  reporter : Reporter
  message : String
  deriving DecidableEq, Repr

namespace Event

/-- What is reported of an event, whether it is the first of its kind or not. -/
def record? : Event → Option Record
  | .applied _ | .returned _ _ | .left | .renewed _ | .called => none
  | .tried matcher shown position =>
    some ⟨.trace, .matchers,
      matcher.word ++ ": trying " ++ shown ++ " at index " ++ toString position⟩
  | .rejected name position =>
    some ⟨.trace, .choosing, "choice: " ++ name ++ " failed at index " ++ toString position⟩
  | .entered _ name => some ⟨.trace, .building, "lazy: built " ++ name⟩
  | .started name bytes =>
    some ⟨.debug, .engine, name ++ ": parsing " ++ toString bytes ++ " bytes"⟩
  | .matched name position =>
    some ⟨.debug, .engine, name ++ ": matched up to index " ++ toString position⟩
  | .failed name failure => some ⟨.debug, .engine, name ++ ": failed: " ++ failure.message⟩

end Event

/-- The records of some events, given what was built before, and what is built after them. -/
def recordsOf (built : List Address) : List Event → List Record × List Address
  | [] => ([], built)
  | .entered address name :: events =>
    if built.contains address then recordsOf built events
    else
      let (records, after) := recordsOf (address :: built) events
      ((Event.entered address name).record?.toList ++ records, after)
  | .renewed address :: events =>
    recordsOf (built.filter fun inner => !address.isSuffixOf inner) events
  | event :: events =>
    let (records, after) := recordsOf built events
    (event.record?.toList ++ records, after)

/-- The records of each of several texts, one after the other, and what is built after them. -/
def recordsOfTexts (built : List Address) : List (List Event) → List (List Record)
  | [] => []
  | events :: texts =>
    let (records, after) := recordsOf built events
    records :: recordsOfTexts after texts

end Descent
