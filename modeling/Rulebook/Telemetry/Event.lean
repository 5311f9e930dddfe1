import Rulebook.Program.Basic

/-!
What an operation leaves behind besides its result: log records and metric events.

Nothing here is ever read back by the engine. `Recorded` pairs a computation that can be
interrupted with its events, which stay also when it is.
-/

namespace Rulebook

inductive LogLevel where
  | debug | info | warning
deriving DecidableEq

def LogLevel.spelling : LogLevel → String
  | debug => "DEBUG"
  | info => "INFO"
  | warning => "WARNING"

/-- One line of a log, and the data that goes with it. -/
structure LogRecord where
  level : LogLevel
  logger : String
  message : String
  extra : Record
deriving DecidableEq

inductive ExecutionStatus where
  | success | constraintFailure | ruleLimit
deriving DecidableEq

def ExecutionStatus.spelling : ExecutionStatus → String
  | success => "success"
  | constraintFailure => "constraint_failure"
  | ruleLimit => "rule_limit"

/-- What happens while an operation runs: a record is logged, or one metric is told of an
execution or an issue. How long an execution took is not said, only that it was measured.
A scope is one execution, which has a label and an identity of its own. -/
inductive Event where
  | log (entry : LogRecord)
  | executed (status : ExecutionStatus)
  | timed
  | fired (firings : Nat)
  | conflicted (conflicts : Nat)
  | reported (kind : IssueKind) (severity : IssueSeverity)
  | scope (label : String) (events : List Event)

/-- A result or the reason why there is none, with the events up to then. -/
structure Recorded (ε α : Type) where
  result : Except ε α
  events : List Event

namespace Recorded

variable {ε α β : Type}

/-- Goes on with a result; the events of both parts follow one another. -/
def andThen (x : Recorded ε α) (f : α → Recorded ε β) : Recorded ε β :=
  match x.result with
  | .ok a =>
      let y := f a
      ⟨y.result, x.events ++ y.events⟩
  | .error e => ⟨.error e, x.events⟩

instance : Monad (Recorded ε) where
  pure a := ⟨.ok a, []⟩
  bind := andThen

def lift (x : Except ε α) : Recorded ε α := ⟨x, []⟩

def emit (event : Event) : Recorded ε Unit := ⟨.ok (), [event]⟩

def inScope (label : String) (x : Recorded ε α) : Recorded ε α :=
  ⟨x.result, [.scope label x.events]⟩

@[simp] theorem result_pure (a : α) : (pure a : Recorded ε α).result = .ok a := rfl

@[simp] theorem result_bind (x : Recorded ε α) (f : α → Recorded ε β) :
    (x >>= f).result = x.result.bind fun a => (f a).result := by
  show (andThen x f).result = _
  unfold andThen
  cases x.result <;> rfl

/-- A composed computation has a result when both of its parts have one. -/
theorem result_bind_eq_ok_iff {x : Recorded ε α} {f : α → Recorded ε β} {b : β} :
    (x >>= f).result = .ok b ↔ ∃ a, x.result = .ok a ∧ (f a).result = .ok b := by
  rw [result_bind]
  cases x.result with
  | error e => simp [Except.bind]
  | ok a => simp [Except.bind]

/-- The events of the second part follow those of the first, if there is a second. -/
theorem events_bind {x : Recorded ε α} {f : α → Recorded ε β} {a : α}
    (h : x.result = .ok a) : (x >>= f).events = x.events ++ (f a).events := by
  show (andThen x f).events = _
  simp [andThen, h]

@[simp] theorem result_lift (x : Except ε α) : (lift x).result = x := rfl

@[simp] theorem result_emit (event : Event) : (emit event : Recorded ε Unit).result = .ok () :=
  rfl

@[simp] theorem result_inScope (label : String) (x : Recorded ε α) :
    (x.inScope label).result = x.result := rfl

end Recorded

end Rulebook
