/-
  FilterRules — the log.

  Reading and checking a rule leaves a log: an event for every node that is
  entered, and one for a failure.

  * `Event` with its level, its message and the fields that it carries;
  * `Logged` is a computation that writes a log and may fail.  What it has
    written before it fails stays written (`events`), and `result` is what it
    gives when nobody looks at the log;
  * `result_bind`, `events_bind_ok` and `events_bind_error` say what one
    computation after the other gives and writes, and `result_reporting`,
    `events_reporting_ok` and `events_reporting_error` that a report of a failure
    changes nothing else; `events_bind_pure` leaves the log as it is.
-/
import FilterRules.Rule.Error

namespace FilterRules

/-! ## Events -/

/-- How much an event matters. -/
inductive Level where
  | trace
  | debug
  deriving DecidableEq, Repr

/-- The name of a level. -/
def Level.name : Level → String
  | .trace => "TRACE"
  | .debug => "DEBUG"

/-- Something that the log tells. -/
inductive Event where
  | enteredGroup
  | enteredComparison
  | readingFailed (error : RuleError)
  | validationFailed (error : RuleError)
  | compilationFailed (error : RuleError)
  deriving DecidableEq, Repr

namespace Event

/-- The level of an event: failures are of the higher one. -/
def level : Event → Level
  | .enteredGroup | .enteredComparison => .trace
  | .readingFailed _ | .validationFailed _ | .compilationFailed _ => .debug

/-- The message of an event. -/
def message : Event → String
  | .enteredGroup => "parsing combined rule"
  | .enteredComparison => "parsing atomic rule"
  | .readingFailed _ => "rule failed to parse"
  | .validationFailed _ => "rule failed validation"
  | .compilationFailed _ => "rule failed to compile"

/-- The error that an event reports. -/
def error? : Event → Option RuleError
  | .enteredGroup | .enteredComparison => none
  | .readingFailed e | .validationFailed e | .compilationFailed e => some e

/-- What an event carries besides its message: of an error, the path and the wording of its
    cause. -/
def fields (event : Event) : List (String × String) :=
  match event.error? with
  | some e => [("path", e.path), ("error", e.cause.message)]
  | none => []

end Event

/-! ## Computations with a log -/

/-- A computation that has written a log and has given a value or failed. -/
structure Logged (α : Type) where
  events : List Event
  result : Except RuleError α

namespace Logged

variable {α β : Type}

/-- Goes on with the value of a computation, unless it has failed. -/
def bind (x : Logged α) (f : α → Logged β) : Logged β :=
  match x.result with
  | .ok a => ⟨x.events ++ (f a).events, (f a).result⟩
  | .error e => ⟨x.events, .error e⟩

instance : Monad Logged where
  pure a := ⟨[], .ok a⟩
  bind := bind

/-- Writes an event. -/
def log (event : Event) : Logged Unit := ⟨[event], .ok ()⟩

/-- A computation that writes nothing. -/
def ofExcept (result : Except RuleError α) : Logged α := ⟨[], result⟩

/-- Fails. -/
def fail (e : RuleError) : Logged α := ofExcept (.error e)

/-- The computation with another error if it fails. -/
def mapError (f : RuleError → RuleError) (x : Logged α) : Logged α :=
  ⟨x.events, x.result.mapError f⟩

/-- The computation with one more event at its end if it fails. -/
def reporting (event : RuleError → Event) (x : Logged α) : Logged α :=
  match x.result with
  | .ok _ => x
  | .error e => ⟨x.events ++ [event e], .error e⟩

/-! ## What the parts of a computation give -/

@[simp] theorem events_pure (a : α) : (pure a : Logged α).events = [] := rfl

theorem result_bind (x : Logged α) (f : α → Logged β) :
    (x >>= f).result = x.result >>= fun a => (f a).result := by
  change (bind x f).result = _
  unfold bind
  cases x.result <;> rfl

theorem events_bind_ok {x : Logged α} {a : α} (h : x.result = .ok a) (f : α → Logged β) :
    (x >>= f).events = x.events ++ (f a).events := by
  change (bind x f).events = _
  simp only [bind, h]

theorem events_bind_error {x : Logged α} {e : RuleError} (h : x.result = .error e)
    (f : α → Logged β) : (x >>= f).events = x.events := by
  change (bind x f).events = _
  simp only [bind, h]

/-- What becomes of a value afterwards is not written. -/
theorem events_bind_pure (x : Logged α) (f : α → β) :
    (x >>= fun a => pure (f a)).events = x.events := by
  cases h : x.result with
  | ok a => rw [events_bind_ok h, events_pure, List.append_nil]
  | error e => rw [events_bind_error h]

@[simp] theorem events_mapError (f : RuleError → RuleError) (x : Logged α) :
    (x.mapError f).events = x.events := rfl

@[simp] theorem result_mapError (f : RuleError → RuleError) (x : Logged α) :
    (x.mapError f).result = x.result.mapError f := rfl

/-- A report does not change what a computation gives. -/
@[simp] theorem result_reporting (event : RuleError → Event) (x : Logged α) :
    (x.reporting event).result = x.result := by
  unfold reporting
  split
  · rfl
  · rename_i h
    exact h.symm

theorem events_reporting_ok {x : Logged α} {a : α} (h : x.result = .ok a)
    (event : RuleError → Event) : (x.reporting event).events = x.events := by
  simp only [reporting, h]

theorem events_reporting_error {x : Logged α} {e : RuleError} (h : x.result = .error e)
    (event : RuleError → Event) : (x.reporting event).events = x.events ++ [event e] := by
  simp only [reporting, h]

end Logged

end FilterRules
