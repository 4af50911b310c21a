import Descent.Failure

set_option autoImplicit false

/-!
What happens while a parser is applied, as a list of events beside the value that comes out.
-/

namespace Descent

/-- Which lazily built parser is meant: the cells through which it is reached, its own cell first
and the outermost one last. -/
abbrev Address := List Nat

/-- The matchers, which are the only parsers that look at the text. -/
inductive Matcher where
  | literal
  | pattern
  deriving DecidableEq, Repr

/-- The word for a matcher in messages. -/
def Matcher.word : Matcher → String
  | .literal => "literal"
  | .pattern => "pattern"

/-- Something that happens while a parser is applied. -/
inductive Event where
  /-- The application of a parser begins. -/
  | applied (position : Nat)
  /-- The application of a parser ends. -/
  | returned (position : Nat) (error : Option Failure)
  /-- A matcher looks at the text; `shown` is what it looks for. -/
  | tried (matcher : Matcher) (shown : String) (position : Nat)
  /-- An alternative has failed and the next one is taken. -/
  | rejected (name : String) (position : Nat)
  /-- A lazily built parser of the given name is entered. -/
  | entered (address : Address) (name : String)
  /-- A lazily built parser is left. -/
  | left
  /-- A parser is built anew under an address, so that nothing built below it before is kept. -/
  | renewed (address : Address)
  /-- A function of the grammar is called with a result. -/
  | called
  /-- A parser begins with a text of so many bytes. -/
  | started (name : String) (bytes : Nat)
  /-- A parser has matched its text up to a position. -/
  | matched (name : String) (position : Nat)
  /-- A parser has failed on its text. -/
  | failed (name : String) (failure : Failure)
  deriving DecidableEq, Repr

/-- A value and the events on the way to it, in order. -/
structure Traced (α : Type) where
  value : α
  events : List Event

namespace Traced

variable {α β γ : Type}

/-- A value reached without events. -/
def of (value : α) : Traced α := ⟨value, []⟩

/-- One event. -/
def emit (event : Event) : Traced Unit := ⟨(), [event]⟩

/-- The events of the second part follow those of the first. -/
def andThen (first : Traced α) (second : α → Traced β) : Traced β :=
  let after := second first.value
  ⟨after.value, first.events ++ after.events⟩

/-- A function of the value leaves the events alone. -/
def mapValue (f : α → β) (traced : Traced α) : Traced β := ⟨f traced.value, traced.events⟩

instance : Monad Traced where
  pure := of
  bind := andThen
  map := mapValue

@[ext] theorem ext {first second : Traced α} (value : first.value = second.value)
    (events : first.events = second.events) : first = second := by
  cases first
  cases second
  cases value
  cases events
  rfl

@[simp] theorem value_pure (value : α) : (pure value : Traced α).value = value := rfl

@[simp] theorem events_pure (value : α) : (pure value : Traced α).events = [] := rfl

@[simp] theorem value_bind (first : Traced α) (second : α → Traced β) :
    (first >>= second).value = (second first.value).value := rfl

@[simp] theorem events_bind (first : Traced α) (second : α → Traced β) :
    (first >>= second).events = first.events ++ (second first.value).events := rfl

@[simp] theorem value_map (f : α → β) (traced : Traced α) :
    (f <$> traced).value = f traced.value := rfl

@[simp] theorem events_map (f : α → β) (traced : Traced α) :
    (f <$> traced).events = traced.events := rfl

@[simp] theorem events_emit (event : Event) : (emit event).events = [event] := rfl

instance : LawfulMonad Traced := LawfulMonad.mk' _
  (fun _ => rfl)
  (fun _ _ => ext rfl (List.nil_append _))
  (fun first _ _ => ext rfl (List.append_assoc first.events _ _))
  (fun _ _ => rfl)
  (fun _ _ => rfl)
  (fun _ _ => rfl)
  (fun _ traced => ext rfl (List.append_nil traced.events))

end Traced

end Descent
