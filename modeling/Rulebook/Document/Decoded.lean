import Rulebook.Value.Equality
import Rulebook.Value.Display

/-!
Reading documents: a result or every problem that was found.

`Decoded` is applicative and not monadic on purpose: the parts of a record are read
independently of one another, and the problems of all of them are reported in the
order in which the parts are declared.
-/

namespace Rulebook

inductive Step where
  | name (s : String)
  | index (n : Int)
deriving DecidableEq

inductive Cause where
  | missing
  | notRecord
  | notTaggedRecord
  | tagMissing
  | tagUnknown
  | otherConstant
  | notText
  | textTooShort
  | notList
  | listTooShort
  | notMapping
  | notMember
  | notInt
  | unreadableInt
  | fractionalInt
  | nonFiniteInt
  | notFloat
  | unreadableFloat
  | notBool
  | unreadableBool
  | notGreater
  | unfit (reason : String)
deriving DecidableEq

structure Problem where
  path : List Step
  cause : Cause
deriving DecidableEq

/-- What reading gives: a result, or all problems in order. -/
inductive Decoded (α : Type) where
  | accepted (a : α)
  | refused (problems : List Problem)

namespace Decoded

variable {α β : Type}

def map (f : α → β) : Decoded α → Decoded β
  | accepted a => accepted (f a)
  | refused ps => refused ps

/-- Reads both parts, and reports the problems of both. -/
def apply : Decoded (α → β) → Decoded α → Decoded β
  | accepted f, accepted a => accepted (f a)
  | accepted _, refused qs => refused qs
  | refused ps, accepted _ => refused ps
  | refused ps, refused qs => refused (ps ++ qs)

instance : Functor Decoded where
  map := map

instance : Applicative Decoded where
  pure := accepted
  seq f a := apply f (a ())

def fail (cause : Cause) : Decoded α := refused [⟨[], cause⟩]

/-- Problems seen from one step further out. -/
def within (step : Step) : Decoded α → Decoded α
  | accepted a => accepted a
  | refused ps => refused (ps.map fun p => { p with path := step :: p.path })

/-- A further demand on what was read. -/
def check (holds : α → Bool) (cause : Cause) : Decoded α → Decoded α
  | accepted a => if holds a then accepted a else fail cause
  | refused ps => refused ps

def toOption : Decoded α → Option α
  | accepted a => some a
  | refused _ => none

@[simp] theorem map_accepted (f : α → β) (a : α) : f <$> accepted a = accepted (f a) := rfl

@[simp] theorem seq_accepted (f : α → β) (a : α) :
    accepted f <*> accepted a = accepted (f a) := rfl

@[simp] theorem within_accepted (step : Step) (a : α) :
    within step (accepted a) = accepted a := rfl

end Decoded

end Rulebook
