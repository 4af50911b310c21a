import Descent.Proofs.Building

set_option autoImplicit false

/-!
What is seen of the memory of a parser.

Whatever a parser has kept, it gives the value that it gives without a memory, on the way through the
same events; only which of them build something depends on what is kept. `Mirrors` says so of one
piece of work, and it holds of all combinators because it holds of one thing after another.
-/

namespace Descent

namespace Layout

variable {R : Type → Type}

/-- The site of what is built at an address. -/
def site (layout : Layout R) : Address → Address
  | [] => layout.root
  | cell :: scope => layout.locate (layout.site scope) cell

variable (layout : Layout R)

/-- An event with sites for addresses. -/
def locateEvent : Event → Event
  | .entered address name => .entered (layout.site address) name
  | event => event

theorem locateEvent_of_plain {event : Event} (plain : event.site? = none) :
    layout.locateEvent event = event := by
  cases event with
  | entered address name => contradiction
  | _ => rfl

/-- If nothing is shared, then addresses are sites. -/
theorem locateEvent_of_unshared (root : layout.root = [])
    (locate : ∀ site cell, layout.locate site cell = cell :: site) (event : Event) :
    layout.locateEvent event = event := by
  have same (address : Address) : layout.site address = address := by
    induction address with
    | nil => exact root
    | cons cell scope ih => rw [site, locate, ih]
  cases event with
  | entered address name => rw [locateEvent, same]
  | _ => rfl

/-- Functions return copies of parsers that were built before. -/
def Steady : Prop := ∀ site call, layout.choose site call = site

end Layout

namespace Recalling

variable {R : Type → Type} {layout : Layout R} {grammar : Grammar R} {α β σ : Type}

/-- At the given sites, and nowhere else, the bodies of the rules are kept. -/
structure Holds (layout : Layout R) (grammar : Grammar R) (memory : Memory R)
    (built : List Address) : Prop where
  keeps : ∀ (site : Address) (α : Type) (rule : R α), site ∈ built →
    layout.rule site = some ⟨α, rule⟩ → memory.kept (α, site) = some (grammar α rule)
  lacks : ∀ (site : Address) (α : Type), site ∉ built → memory.kept (α, site) = none

theorem Holds.empty (calls : Nat) : Holds layout grammar (.empty calls) [] := by
  constructor
  · intro site α rule built
    contradiction
  · exact fun _ _ _ => rfl

theorem Holds.keep {memory : Memory R} {built : List Address} {site : Address} {rule : R α}
    (holds : Holds layout grammar memory built) (ruled : layout.rule site = some ⟨α, rule⟩) :
    Holds layout grammar (memory.keep site (grammar α rule)) (built.insert site) := by
  constructor
  · intro other β rule' member ruled'
    by_cases same : other = site
    · subst same
      rw [ruled] at ruled'
      cases ruled'
      exact memory.keep_self _ _
    · have before : other ∈ built := (List.mem_insert_iff.mp member).resolve_left same
      exact (memory.keep_of_ne _ β same).trans (holds.keeps other β rule' before ruled')
  · intro other β missing
    obtain ⟨differ, before⟩ := not_or.mp (mt List.mem_insert_iff.mpr missing)
    exact (memory.keep_of_ne _ β differ).trans (holds.lacks other β before)

/-- What is left after a run that gave a value with some events. -/
structure Yields (layout : Layout R) (grammar : Grammar R) (built : List Address) (value : α)
    (events : List Event) (calls : Nat) (after : Recalled R α) : Prop where
  value : after.value = value
  noted : after.noted = notedFrom built events
  calls : after.memory.calls = calls
  holds : Holds layout grammar after.memory (builtAfter built events)

/-- Whatever is kept, the value and the events are the same, except for what they build. -/
def Mirrors (layout : Layout R) (grammar : Grammar R) (work : Recalling R α) (traced : Traced α) :
    Prop :=
  ∀ calls, ∃ events calls', (∀ event ∈ events, event.Lasting) ∧
    (layout.Steady → events = traced.events.map layout.locateEvent) ∧
    ∀ memory built, memory.calls = calls → Holds layout grammar memory built →
      Yields layout grammar built traced.value events calls' (work memory)

namespace Mirrors

theorem pure (value : α) : Mirrors layout grammar (Pure.pure value) (Pure.pure value) := by
  intro calls
  exact ⟨[], calls, by simp, fun _ => rfl, fun memory built same holds => ⟨rfl, rfl, same, holds⟩⟩

theorem bind {work : Recalling R α} {traced : Traced α} {next : α → Recalling R β}
    {next' : α → Traced β} (first : Mirrors layout grammar work traced)
    (second : Mirrors layout grammar (next traced.value) (next' traced.value)) :
    Mirrors layout grammar (work >>= next) (traced >>= next') := by
  intro calls
  obtain ⟨events, middle, lasting, steady, yields⟩ := first calls
  obtain ⟨events', last, lasting', steady', yields'⟩ := second middle
  refine ⟨events ++ events', last, List.forall_mem_append.mpr ⟨lasting, lasting'⟩, ?_, ?_⟩
  · intro stays
    rw [steady stays, steady' stays, Traced.events_bind, List.map_append]
  · intro memory built same holds
    have one := yields memory built same holds
    have two := yields' (work memory).memory _ one.calls one.holds
    have goesOn : (work >>= next) memory =
        ⟨(next traced.value (work memory).memory).value,
          (work memory).noted ++ (next traced.value (work memory).memory).noted,
          (next traced.value (work memory).memory).memory⟩ := by
      rw [← one.value]
      rfl
    rw [goesOn]
    refine ⟨two.value, ?_, two.calls, ?_⟩
    · rw [notedFrom_append, one.noted, two.noted]
    · rw [builtAfter_append]
      exact two.holds

theorem map {work : Recalling R α} {traced : Traced α} (f : α → β)
    (mirrors : Mirrors layout grammar work traced) :
    Mirrors layout grammar (f <$> work) (f <$> traced) := by
  rw [map_eq_pure_bind f traced]
  exact mirrors.bind (.pure _)

/-- What neither enters a rule nor renews a parser. -/
theorem replay {traced : Traced α} (lasting : ∀ event ∈ traced.events, event.Lasting)
    (plain : ∀ event ∈ traced.events, event.site? = none) :
    Mirrors layout grammar (replay traced) traced := by
  intro calls
  refine ⟨traced.events, calls, lasting, fun _ => ?_, fun memory built same holds => ?_⟩
  · have all := List.map_congr_left fun event member => layout.locateEvent_of_plain (plain event member)
    exact (all.trans (List.map_id _)).symm
  · obtain ⟨noted, after⟩ := notedFrom_of_plain built plain
    exact ⟨rfl, noted.symm, same, after.symm ▸ holds⟩

theorem emit {event : Event} (lasting : event.Lasting) (plain : event.site? = none) :
    Mirrors layout grammar (emit event) (Traced.emit event) :=
  replay (by simpa [Traced.emit] using lasting) (by simpa [Traced.emit] using plain)

theorem ite {condition : Prop} [Decidable condition] {first second : Recalling R α}
    {first' second' : Traced α} (one : condition → Mirrors layout grammar first first')
    (two : ¬condition → Mirrors layout grammar second second') :
    Mirrors layout grammar (if condition then first else second)
      (if condition then first' else second') := by
  split
  next holds => exact one holds
  next fails => exact two fails

/-- The number of a call matters only to where things are kept. -/
theorem nextCall {next : Nat → Recalling R α} {traced : Traced α}
    (mirrors : ∀ call, Mirrors layout grammar (next call) traced) :
    Mirrors layout grammar (nextCall >>= next) traced := by
  intro calls
  obtain ⟨events, calls', lasting, steady, yields⟩ := mirrors calls (calls + 1)
  refine ⟨events, calls', lasting, steady, fun memory built same holds => ?_⟩
  subst same
  exact yields { memory with calls := memory.calls + 1 } built rfl ⟨holds.keeps, holds.lacks⟩

/-- What is kept at a site is the body of its rule. -/
theorem obtain {site address : Address} {rule : R α} {use : Parser R α → Recalling R β}
    {traced : Traced β} (ruled : layout.rule site = some ⟨α, rule⟩)
    (aligned : layout.Steady → site = layout.site address)
    (mirrors : Mirrors layout grammar (use (grammar α rule)) traced) :
    Mirrors layout grammar (obtain grammar site rule use) (do
      Traced.emit (.entered address (grammar α rule).name)
      traced) := by
  intro calls
  obtain ⟨events, calls', lasting, steady, yields⟩ := mirrors calls
  refine ⟨.entered site (grammar α rule).name :: events, calls',
    List.forall_mem_cons.mpr ⟨fun _ => Event.noConfusion, lasting⟩, ?_, ?_⟩
  · intro stays
    simp [Layout.locateEvent, steady stays, aligned stays]
  · intro memory built same holds
    by_cases before : site ∈ built
    · rw [obtain_of_kept (holds.keeps site α rule before ruled)]
      have known : builtBy built (.entered site (grammar α rule).name) = built :=
        List.insert_of_mem before
      obtain ⟨value, noted, calls, holds⟩ := yields memory built same holds
      refine ⟨value, ?_, calls, ?_⟩
      · simp [notedFrom, known, noted, noteEvent, Event.site?, before]
      · simpa [builtAfter, known] using holds
    · rw [obtain_of_lacking (holds.lacks site α before)]
      obtain ⟨value, noted, calls, holds⟩ :=
        yields (memory.keep site (grammar α rule)) _ same (holds.keep ruled)
      refine ⟨value, ?_, calls, holds⟩
      simp [notedFrom, builtBy, noted, noteEvent, Event.site?, before]

theorem application {state : State α} {work : Recalling R (State α)} {traced : Traced (State α)}
    (mirrors : Mirrors layout grammar work traced) :
    Mirrors layout grammar (application state work) (Parser.application state traced) := by
  refine bind (emit (fun _ => Event.noConfusion) rfl) (mirrors.bind ?_)
  exact bind (emit (fun _ => Event.noConfusion) rfl) (.pure _)

theorem unlessFailed {state : State α} {work : Recalling R (State α)} {traced : Traced (State α)}
    (mirrors : state.failed = false → Mirrors layout grammar work traced) :
    Mirrors layout grammar (Recalling.application state (unlessFailed state work))
      (Parser.application state (Parser.unlessFailed state traced)) :=
  application (ite (fun _ => .pure _) fun running => mirrors (by simpa using running))

end Mirrors

theorem matchLiteral_mirrors (expected : String) (state : State String) :
    Mirrors layout grammar (replay (Parser.matchLiteral expected state))
      (Parser.matchLiteral expected state) := by
  have events : (Parser.matchLiteral expected state).events =
      [.tried .literal (Text.quoted expected) state.position] := by
    simp only [Parser.matchLiteral, Traced.events_bind]
    split
    · rfl
    · split <;> rfl
  exact .replay (by simp [events, Event.Lasting]) (by simp [events, Event.site?])

theorem matchPattern_mirrors (source : String) (matchLength? : List Char → Option Nat)
    (state : State String) :
    Mirrors layout grammar (replay (Parser.matchPattern source matchLength? state))
      (Parser.matchPattern source matchLength? state) := by
  have events : (Parser.matchPattern source matchLength? state).events =
      [.tried .pattern ("/" ++ source ++ "/") state.position] := by
    simp only [Parser.matchPattern, Traced.events_bind]
    split
    · rfl
    · split <;> rfl
  exact .replay (by simp [events, Event.Lasting]) (by simp [events, Event.site?])

/-- A step that is the same with a memory. -/
def StepMirrors (layout : Layout R) (grammar : Grammar R) (step : State α → Recalling R (State α))
    (step' : State α → Traced (State α)) : Prop :=
  ∀ state, Mirrors layout grammar (step state) (step' state)

theorem repeatFrom_mirrors {step : State α → Recalling R (State α)}
    {step' : State α → Traced (State α)} (mirrors : StepMirrors layout grammar step step')
    (bound : Nat) : StepMirrors layout grammar (repeatFrom step bound) (Parser.repeatFrom step' bound) := by
  induction bound with
  | zero => exact fun _ => .pure _
  | succ bound ih =>
    intro state
    refine (mirrors state).bind (.ite (fun _ => .pure _) fun _ => ?_)
    refine .ite (fun _ => .pure _) fun _ => .ite (fun _ => .pure _) fun _ => ?_
    exact (ih _).map _

theorem separateFrom_mirrors {separator : State σ → Recalling R (State σ)}
    {separator' : State σ → Traced (State σ)} {value : State α → Recalling R (State α)}
    {value' : State α → Traced (State α)} (separates : StepMirrors layout grammar separator separator')
    (mirrors : StepMirrors layout grammar value value') (bound : Nat) :
    StepMirrors layout grammar (separateFrom separator value bound)
      (Parser.separateFrom separator' value' bound) := by
  induction bound with
  | zero => exact fun _ => .pure _
  | succ bound ih =>
    intro state
    refine (mirrors state).bind (.ite (fun _ => .pure _) fun _ => ?_)
    refine .ite (fun _ => .pure _) fun _ => (separates _).bind ?_
    refine .ite (fun _ => .pure _) fun _ => .ite (fun _ => .pure _) fun _ => ?_
    exact .ite (fun _ => .pure _) fun _ => (ih _).map _

/-- A part is the same, and so is what follows it. -/
theorem bind_cleared_mirrors {first : Recalling R (State α)} {first' : Traced (State α)}
    {next : State α → Recalling R (State β)} {next' : State α → Traced (State β)}
    (mirrors : Mirrors layout grammar first first')
    (goesOn : ∀ state, Mirrors layout grammar (next state) (next' state)) :
    Mirrors layout grammar
      (do
        let after ← first
        if after.failed then return after.cleared else next after)
      (do
        let after ← first'
        if after.failed then return after.cleared else next' after) :=
  mirrors.bind (.ite (fun _ => .pure _) fun _ => goesOn _)

section Combinators

variable {enter : Enter R} {enter' : Parser.Enter R} {site : Address} {scope : Address}

theorem laidOut_ofList {parsers : List (Parser R α)}
    (laidOut : (Parsers.ofList parsers).LaidOut layout site) :
    ∀ parser ∈ parsers, parser.LaidOut layout site := by
  induction parsers with
  | nil => simp
  | cons parser rest ih =>
    obtain ⟨first, others⟩ := laidOut
    exact List.forall_mem_cons.mpr ⟨first, ih others⟩

theorem sequenceWith_mirrors {parsers : List (Parser R α)}
    (mirrors : ∀ parser ∈ parsers, StepMirrors layout grammar (traceWith layout enter site parser)
      (Parser.traceWith enter' scope parser)) :
    StepMirrors layout grammar (sequenceWith layout enter site (.ofList parsers))
      (Parser.sequenceWith enter' scope (.ofList parsers)) := by
  induction parsers with
  | nil => exact fun _ => .pure _
  | cons parser rest ih =>
    intro state
    have others := ih fun parser member => mirrors parser (by simp [member])
    exact bind_cleared_mirrors (mirrors parser (by simp) state) fun _ => (others _).map _

theorem chooseWith_mirrors {alternatives : List (Parser R α)}
    (mirrors : ∀ parser ∈ alternatives,
      StepMirrors layout grammar (traceWith layout enter site parser)
        (Parser.traceWith enter' scope parser)) :
    StepMirrors layout grammar (chooseWith layout enter site (.ofList alternatives))
      (Parser.chooseWith enter' scope (.ofList alternatives)) := by
  induction alternatives with
  | nil => exact fun _ => .pure _
  | cons parser rest ih =>
    intro state
    have others := ih fun parser member => mirrors parser (by simp [member])
    refine (mirrors parser (by simp) state).bind (.ite (fun _ => .pure _) fun _ => ?_)
    exact .bind (.emit (fun _ => Event.noConfusion) rfl) (others state)

theorem traceWith_mirrors
    (enters : ∀ {α : Type} (site address : Address) (rule : R α),
      layout.rule site = some ⟨α, rule⟩ → (layout.Steady → site = layout.site address) →
      StepMirrors layout grammar (enter site rule) (enter' address rule))
    {parser : Parser R α} (standard : parser.Standard) (laidOut : parser.LaidOut layout site)
    (aligned : layout.Steady → site = layout.site scope) :
    StepMirrors layout grammar (traceWith layout enter site parser)
      (Parser.traceWith enter' scope parser) := by
  induction standard generalizing site with
  | literal expected => exact fun state => .unlessFailed fun _ => matchLiteral_mirrors _ _
  | pattern expected => exact fun state => .unlessFailed fun _ => matchPattern_mirrors _ _ _
  | run kind => exact fun state => .unlessFailed fun _ => matchPattern_mirrors _ _ _
  | sequence _ ih =>
    intro state
    refine .unlessFailed fun _ => sequenceWith_mirrors (fun parser member => ?_) _
    exact ih parser member (laidOut_ofList laidOut parser member) aligned
  | choice _ ih =>
    intro state
    refine .unlessFailed fun _ => chooseWith_mirrors (fun parser member => ?_) _
    exact ih parser member (laidOut_ofList laidOut parser member) aligned
  | many _ ih =>
    exact fun state => .unlessFailed fun _ => repeatFrom_mirrors (ih laidOut aligned) _ _
  | many1 _ ih =>
    exact fun state => .unlessFailed fun _ => (repeatFrom_mirrors (ih laidOut aligned) _ _).map _
  | sepBy _ _ separator value =>
    exact fun state => .unlessFailed fun _ =>
      separateFrom_mirrors (separator laidOut.1 aligned) (value laidOut.2 aligned) _ _
  | sepBy1 _ _ separator value =>
    exact fun state => .unlessFailed fun _ =>
      (separateFrom_mirrors (separator laidOut.1 aligned) (value laidOut.2 aligned) _ _).map _
  | between _ _ _ left right content =>
    intro state
    obtain ⟨laidLeft, laidRight, laidContent⟩ := laidOut
    refine .unlessFailed fun _ => bind_cleared_mirrors (left laidLeft aligned _) fun _ => ?_
    refine bind_cleared_mirrors (content laidContent aligned _) fun _ => ?_
    exact bind_cleared_mirrors (right laidRight aligned _) fun _ => .pure _
  | lazy cell limit rule =>
    intro state
    refine .unlessFailed fun _ => .ite (fun _ => .pure _) fun _ => ?_
    refine .bind (enters _ (cell :: scope) rule laidOut (fun stays => ?_) _) (.pure _)
    rw [aligned stays, Layout.site]
  | named _ _ ih => exact ih laidOut aligned
  | map f _ ih =>
    intro state
    refine .application (bind_cleared_mirrors (ih laidOut aligned _) fun _ => ?_)
    exact .bind (.emit (fun _ => Event.noConfusion) rfl) (.pure _)
  | chain _ _ first second =>
    intro state
    refine .application (bind_cleared_mirrors (first laidOut.1 aligned _) fun _ => ?_)
    refine .bind (.emit (fun _ => Event.noConfusion) rfl) (.nextCall fun call => ?_)
    exact second _ (laidOut.2 call _) (fun stays => (stays _ _).trans (aligned stays)) _
  | errorMap message _ ih =>
    intro state
    refine .application ((ih laidOut aligned state).bind ?_)
    generalize (Parser.traceWith enter' scope _ state).value = after
    cases after.error with
    | none => exact .pure _
    | some cause => exact .pure _

end Combinators

theorem traceLevels_mirrors (rules : grammar.Standard) (bodies : grammar.LaidOut layout)
    (levels : Nat) {parser : Parser R α} (standard : parser.Standard) {site scope : Address}
    (laidOut : parser.LaidOut layout site) (aligned : layout.Steady → site = layout.site scope) :
    StepMirrors layout grammar (traceLevels layout grammar levels site parser)
      (Parser.traceLevels grammar levels scope parser) := by
  induction levels generalizing α site scope with
  | zero => exact fun _ => .pure _
  | succ levels ih =>
    refine traceWith_mirrors ?_ standard laidOut aligned
    intro α site address rule ruled aligned state
    refine .obtain ruled aligned (.bind ?_ (.bind (.emit (fun _ => Event.noConfusion) rfl) (.pure _)))
    exact ih (rules α rule) (bodies site α rule ruled) aligned state

theorem traceText_mirrors (rules : grammar.Standard) (bodies : grammar.LaidOut layout)
    {parser : Parser R α} (standard : parser.Standard) (laidOut : parser.LaidOut layout layout.root)
    (text : String) :
    Mirrors layout grammar (traceText layout grammar parser text)
      (parser.traceText grammar text) := by
  refine .bind (.emit (fun _ => Event.noConfusion) rfl) (.bind ?_ (.bind ?_ (.pure _)))
  · exact traceLevels_mirrors rules bodies _ standard laidOut (fun _ => rfl) _
  · generalize Traced.value _ = after
    cases after.error with
    | none => exact .emit (fun _ => Event.noConfusion) rfl
    | some failure => exact .emit (fun _ => Event.noConfusion) rfl

/-- What one memory does for several texts. -/
theorem traceTexts_runs (rules : grammar.Standard) (bodies : grammar.LaidOut layout)
    {parser : Parser R α} (standard : parser.Standard) (laidOut : parser.LaidOut layout layout.root)
    (texts : List String) {memory : Memory R} {before : List Address}
    (holds : Holds layout grammar memory before) :
    ∃ events,
      (traceTexts layout grammar parser texts memory).value.map Prod.fst =
          texts.map (parser.parse grammar) ∧
        (traceTexts layout grammar parser texts memory).noted = notedFrom before events ∧
        Holds layout grammar (traceTexts layout grammar parser texts memory).memory
          (builtAfter before events) ∧
        (layout.Steady →
          (traceTexts layout grammar parser texts memory).value.map Prod.snd =
            recordsOfTexts before (texts.map fun text =>
              (parser.traceText grammar text).events.map layout.locateEvent)) := by
  induction texts generalizing memory before with
  | nil => exact ⟨[], rfl, rfl, holds, fun _ => rfl⟩
  | cons text texts ih =>
    obtain ⟨events, calls, lasting, steady, yields⟩ :=
      traceText_mirrors rules bodies standard laidOut text memory.calls
    obtain ⟨value, noted, -, holds⟩ := yields memory before rfl holds
    obtain ⟨others, values, notes, holds, logs⟩ := ih holds
    rw [traceTexts_cons]
    refine ⟨events ++ others, congrArg₂ List.cons value values, ?_, ?_, fun stays => ?_⟩
    · rw [notedFrom_append, ← noted, ← notes]
    · rw [builtAfter_append]
      exact holds
    · rw [List.map_cons, List.map_cons, recordsOfTexts, ← steady stays,
        recordsOf_eq_notedFrom before lasting, ← noted]
      exact congrArg _ (logs stays)

theorem obtain_enters (site : Address) (rule : R α) (use : Parser R α → Recalling R β)
    (memory : Memory R) (rest : List Noted) :
    ((obtain grammar site rule use memory).noted ++ rest)[0]?.bind (fun noted => noted.event.site?) =
      some site := by
  cases kept : memory.kept (α, site) with
  | none =>
    rw [obtain_of_lacking kept]
    rfl
  | some parser =>
    rw [obtain_of_kept kept]
    rfl

theorem noted_application (state : State α) (work : Recalling R (State α)) (memory : Memory R) :
    (application state work memory).noted =
      ⟨.applied state.position, false⟩ :: ((work memory).noted ++
        [⟨.returned (work memory).value.position (work memory).value.error, false⟩]) := rfl

/-- A lazily built parser is entered by each application to a state that has not failed and is within
the limit, and by no other. -/
theorem lazy_enters (levels : Nat) (site : Address) (cell : Nat) (limit : UInt64) (rule : R α)
    (state : State α) (memory : Memory R) :
    ((traceLevels layout grammar (levels + 1) site (.lazy cell limit rule) state memory).noted[1]?.bind
        fun noted => noted.event.site?) =
      if state.failed = false ∧ state.depth < limit.toNat then some (layout.locate site cell)
      else none := by
  rw [traceLevels, traceWith, noted_application, List.getElem?_cons_succ, unlessFailed]
  cases failed : state.failed with
  | true => rfl
  | false =>
    by_cases admitted : state.depth < limit.toNat
    · simp only [Nat.not_le.mpr admitted, admitted, Bool.false_eq_true, if_false, and_self, if_true]
      change ((_ ++ _ ++ _ : List Noted)[0]?.bind _) = _
      rw [List.append_assoc]
      exact obtain_enters ..
    · simp only [Nat.not_lt.mp admitted, admitted, Bool.false_eq_true, if_false, and_false, if_true]
      rfl

/-- No state shows what a parser remembers of earlier texts, and the log shows it only in that nothing
is built again. Each lazily built parser is built when it is first entered. -/
theorem memory_shows_only_in_building (rules : grammar.Standard) (bodies : grammar.LaidOut layout)
    {parser : Parser R α} (standard : parser.Standard) (laidOut : parser.LaidOut layout layout.root)
    (texts : List String) (text : String) :
    let earlier := traceTexts layout grammar parser texts (.empty 0)
    let run := traceText layout grammar parser text earlier.memory
    (run.value = parser.parse grammar text ∧
        earlier.value.map Prod.fst = texts.map (parser.parse grammar)) ∧
      ((∀ levels site cell limit (β : Type) (rule : R β) (state : State β) memory,
          ((traceLevels layout grammar (levels + 1) site (.lazy cell limit rule) state
              memory).noted[1]?.bind fun noted => noted.event.site?) =
            if state.failed = false ∧ state.depth < limit.toNat then some (layout.locate site cell)
            else none) ∧
        earlier.sites.Nodup ∧
        ∀ before noted after site, earlier.noted = before ++ noted :: after →
          noted.event.site? = some site →
            (noted.builds = true ↔ ∀ other ∈ before, other.event.site? ≠ some site)) ∧
      (∀ calls, let alone := traceText layout grammar parser text (.empty calls)
        run.value = alone.value ∧
          (calls = earlier.memory.calls ∨ layout.Steady →
            run.log = alone.logWithout earlier.sites)) ∧
      (layout.Steady → earlier.value.map Prod.snd = recordsOfTexts [] (texts.map fun text =>
        (parser.traceText grammar text).events.map layout.locateEvent)) := by
  intro earlier run
  obtain ⟨events, values, noted, holds, logs⟩ :=
    traceTexts_runs rules bodies standard laidOut texts (.empty 0)
  have mirrors := traceText_mirrors rules bodies standard laidOut text
  obtain ⟨events', _, -, steady, yields⟩ := mirrors earlier.memory.calls
  have after := yields earlier.memory _ rfl holds
  have known : ∀ site, site ∈ builtAfter [] events ↔
      site ∈ earlier.sites ∨ site ∈ ([] : List Address) := by
    intro site
    rw [Recalled.sites, noted, mem_sites_notedFrom, mem_builtAfter]
    simp
  have log := records_notedFrom _ _ _ events' known
  rw [← after.noted] at log
  refine ⟨⟨after.value, values⟩, ⟨fun levels site cell limit β rule => ?_, ?_, ?_⟩, ?_, logs⟩
  · exact lazy_enters levels site cell limit rule
  · rw [Recalled.sites, noted]
    exact sites_notedFrom_nodup [] events
  · intro before mark later site split entered
    have first := builds_iff_first entered (noted.symm.trans split)
    simpa using first
  · intro calls alone
    obtain ⟨_, _, -, steady', yields'⟩ := mirrors calls
    have afresh := yields' (.empty calls) [] rfl (.empty calls)
    refine ⟨after.value.trans afresh.value.symm, fun comparable => log.trans ?_⟩
    rcases comparable with rfl | stays
    · rw [← (yields (.empty _) [] rfl (.empty _)).noted]
      rfl
    · rw [steady stays, ← steady' stays, ← afresh.noted]
      rfl

end Recalling

namespace Brackets

/-- One value that is built lazily, and of which all others are copies. -/
def oneValue : Layout Rule := ⟨[], fun _ _ => [0], fun site _ => site, fun _ => some ⟨_, .value⟩⟩

theorem grammar_laidOut : grammar.LaidOut oneValue := by
  intro site α rule ruled
  cases rule
  simp [grammar, grammarWithin, valueWithin, nestedWithin, Parser.LaidOut, Parsers.LaidOut,
    Parsers.ofList, Parser.letters, Parser.digits, oneValue]

/-- The value is built for the first text, and with it all values inside each other. -/
theorem oneValue_built_once :
    (Recalling.traceTexts oneValue grammar (nested 0 .value) ["[[a]]", "[b"] (.empty 0)).value.map
        (fun run => run.2.filter fun record => record.reporter = .building) =
      [[⟨.trace, .building, "lazy: built choice(array | letters | digits)"⟩], []] := by
  have standard : (nested 0 Rule.value).Standard := nestedWithin_standard ..
  have rules : grammar.Standard := grammarWithin_standard defaultLimit
  have laidOut : (nested 0 Rule.value).LaidOut oneValue oneValue.root := by
    simp [nested, nestedWithin, Parser.LaidOut, oneValue]
  obtain ⟨_, _, _, logs⟩ := Recalling.memory_shows_only_in_building rules grammar_laidOut standard
    laidOut ["[[a]]", "[b"] ""
  have split (runs : List (State String × List Record)) :
      runs.map (fun run => run.2.filter fun record => record.reporter = .building) =
        (runs.map Prod.snd).map (List.filter fun record => record.reporter = .building) := by
    rw [List.map_map]
    rfl
  refine (split _).trans ((congrArg _ (logs fun _ _ => rfl)).trans ?_)
  decide +kernel

end Brackets

end Descent
