import Descent.Proofs.Keeping

set_option autoImplicit false

/-!
Which events build a parser.

A parser is built with the event of entering it, if that is the first at its site. So the same events
build less if something was built before them, and what they build no more is what was built before
(`records_notedFrom`). The log that `recordsOf` makes of events is that of the ones that build.
-/

namespace Descent

/-- The sites at which something is built after an event. -/
def builtBy (built : List Address) (event : Event) : List Address :=
  match event.site? with
  | some site => built.insert site
  | none => built

/-- The sites at which something is built after some events. -/
def builtAfter (built : List Address) (events : List Event) : List Address :=
  events.foldl builtBy built

/-- An event, marked if it builds a parser. -/
def noteEvent (built : List Address) (event : Event) : Noted :=
  ⟨event, event.site?.any fun site => !built.contains site⟩

/-- Events, marked if they build a parser. -/
def notedFrom (built : List Address) : List Event → List Noted
  | [] => []
  | event :: events => noteEvent built event :: notedFrom (builtBy built event) events

theorem mem_builtBy {built : List Address} {event : Event} {site : Address} :
    site ∈ builtBy built event ↔ site ∈ built ∨ event.site? = some site := by
  unfold builtBy
  cases event.site? with
  | none => simp
  | some entered => simp [or_comm, eq_comm]

theorem mem_builtAfter {built : List Address} {events : List Event} {site : Address} :
    site ∈ builtAfter built events ↔ site ∈ built ∨ ∃ event ∈ events, event.site? = some site := by
  induction events generalizing built with
  | nil => simp [builtAfter]
  | cons event events ih =>
    change site ∈ builtAfter (builtBy built event) events ↔ _
    simp only [ih, mem_builtBy, List.mem_cons, exists_eq_or_imp, or_assoc]

theorem builtAfter_append (built : List Address) (first second : List Event) :
    builtAfter built (first ++ second) = builtAfter (builtAfter built first) second :=
  List.foldl_append

theorem notedFrom_append (built : List Address) (first second : List Event) :
    notedFrom built (first ++ second) =
      notedFrom built first ++ notedFrom (builtAfter built first) second := by
  induction first generalizing built with
  | nil => rfl
  | cons event events ih => exact congrArg _ (ih _)

theorem notedFrom_of_plain (built : List Address) {events : List Event}
    (plain : ∀ event ∈ events, event.site? = none) :
    notedFrom built events = events.map (fun event => ⟨event, false⟩) ∧
      builtAfter built events = built := by
  induction events with
  | nil => exact ⟨rfl, rfl⟩
  | cons event events ih =>
    obtain ⟨first, rest⟩ := List.forall_mem_cons.mp plain
    have same : builtBy built event = built := by simp [builtBy, first]
    obtain ⟨noted, after⟩ := ih rest
    constructor
    · rw [notedFrom, same, noted, noteEvent, first]
      rfl
    · rw [builtAfter, List.foldl_cons, same]
      exact after

/-- Something is built when it is entered for the first time, and only then. -/
theorem builds_iff_first {built : List Address} {events : List Event} {before after : List Noted}
    {noted : Noted} {site : Address} (entered : noted.event.site? = some site)
    (split : notedFrom built events = before ++ noted :: after) :
    noted.builds = true ↔ site ∉ built ∧ ∀ other ∈ before, other.event.site? ≠ some site := by
  induction events generalizing built before with
  | nil => simp [notedFrom] at split
  | cons event events ih =>
    cases before with
    | nil =>
      obtain ⟨rfl, _⟩ := List.cons.inj split
      have same : event.site? = some site := entered
      simp [noteEvent, same]
    | cons first before =>
      obtain ⟨rfl, rest⟩ := List.cons.inj split
      rw [ih rest, mem_builtBy, not_or, List.forall_mem_cons, and_assoc]
      rfl

theorem site?_noteEvent {built : List Address} {event : Event} {site : Address} :
    (noteEvent built event).site? = some site ↔ event.site? = some site ∧ site ∉ built := by
  cases entered : event.site? with
  | none => simp [Noted.site?, noteEvent, entered]
  | some other =>
    by_cases known : other ∈ built
    · have neither : ¬(other = site ∧ site ∉ built) := by
        rintro ⟨rfl, unknown⟩
        exact unknown known
      simpa [Noted.site?, noteEvent, entered, known] using neither
    · have both : other = site → site ∉ built := by
        rintro rfl
        exact known
      simpa [Noted.site?, noteEvent, entered, known] using both

/-- The sites at which something is built with some events. -/
theorem mem_sites_notedFrom {built : List Address} {events : List Event} {site : Address} :
    site ∈ (notedFrom built events).filterMap Noted.site? ↔
      site ∉ built ∧ ∃ event ∈ events, event.site? = some site := by
  rw [List.mem_filterMap]
  induction events generalizing built with
  | nil => simp [notedFrom]
  | cons event events ih =>
    simp only [notedFrom, List.mem_cons, exists_eq_or_imp, site?_noteEvent, ih, mem_builtBy]
    grind

/-- Nothing is built twice at a site. -/
theorem sites_notedFrom_nodup (built : List Address) (events : List Event) :
    ((notedFrom built events).filterMap Noted.site?).Nodup := by
  induction events generalizing built with
  | nil => exact .nil
  | cons event events ih =>
    rw [notedFrom, List.filterMap_cons]
    cases first : (noteEvent built event).site? with
    | none => exact ih _
    | some site =>
      refine List.nodup_cons.mpr ⟨fun again => ?_, ih _⟩
      have entered := (site?_noteEvent.mp first).1
      exact (mem_sites_notedFrom.mp again).1 (mem_builtBy.mpr (.inr entered))

theorem record?_noteEvent {built fresh base : List Address} {event : Event}
    (split : ∀ site, site ∈ built ↔ site ∈ base ∨ site ∈ fresh) :
    (noteEvent built event).record? =
      if (noteEvent fresh event).site?.all fun site => !base.contains site then
        (noteEvent fresh event).record?
      else none := by
  cases entered : event.site? with
  | none => simp [noteEvent, Noted.record?, Noted.site?, entered]
  | some site =>
    have known := split site
    by_cases before : site ∈ base <;> by_cases since : site ∈ fresh <;>
      simp [noteEvent, Noted.record?, Noted.site?, entered, known, before, since]

/-- What was built before is not reported again, and all else is reported as ever. -/
theorem records_notedFrom (built fresh base : List Address) (events : List Event)
    (split : ∀ site, site ∈ built ↔ site ∈ base ∨ site ∈ fresh) :
    (notedFrom built events).filterMap Noted.record? =
      ((notedFrom fresh events).filter fun noted =>
        noted.site?.all fun site => !base.contains site).filterMap Noted.record? := by
  rw [List.filterMap_filter]
  induction events generalizing built fresh with
  | nil => rfl
  | cons event events ih =>
    have rest := ih (builtBy built event) (builtBy fresh event) fun site => by
      rw [mem_builtBy, mem_builtBy, split, or_assoc]
    simp only [notedFrom, List.filterMap_cons, record?_noteEvent split, rest]

/-- An event that leaves what was built as it is. -/
def Event.Lasting (event : Event) : Prop := ∀ address, event ≠ .renewed address

/-- The log of some events, as `recordsOf` makes it, is that of the marked events. -/
theorem recordsOf_eq_notedFrom (built : List Address) {events : List Event}
    (lasting : ∀ event ∈ events, event.Lasting) :
    recordsOf built events =
      ((notedFrom built events).filterMap Noted.record?, builtAfter built events) := by
  induction events generalizing built with
  | nil => rfl
  | cons event events ih =>
    obtain ⟨first, rest⟩ := List.forall_mem_cons.mp lasting
    have rest (built : List Address) := ih built rest
    change _ = (_, builtAfter (builtBy built event) events)
    rw [notedFrom, List.filterMap_cons]
    cases event with
    | entered site name =>
      by_cases known : site ∈ built
      · simp [recordsOf, known, rest, noteEvent, Noted.record?, builtBy, Event.site?]
      · simp [recordsOf, known, rest, noteEvent, Noted.record?, builtBy, Event.site?,
          Event.record?]
    | renewed address => exact absurd rfl (first address)
    | _ => simp [recordsOf, rest, noteEvent, Noted.record?, builtBy, Event.site?, Event.record?]

end Descent
