/-!
Who wrote where, within one execution.

The tracker keeps the last writer of each path. Recording a second write to a path gives
a warning that names both writers; the later write stands.
-/

namespace Rulebook

structure Writer where
  ruleId : String
  actionId : String
deriving DecidableEq

/-- The last writers, the latest write first. -/
structure WriteTracker where
  writes : List (String × Writer)
deriving DecidableEq

namespace WriteTracker

def empty : WriteTracker := ⟨[]⟩

/-- The last writer of a path. -/
def writer? (tracker : WriteTracker) (path : String) : Option Writer :=
  tracker.writes.lookup path

/-- The warning about a path that `prior` has written before. -/
def conflictWarning (path : String) (prior now : Writer) : String :=
  "Conflict on " ++ path ++ ": previously written by " ++ prior.ruleId ++ " ("
    ++ prior.actionId ++ "), now by " ++ now.ruleId ++ " (" ++ now.actionId ++ ")."

/-- Records a write, with the warning that it gives rise to. -/
def record (tracker : WriteTracker) (path : String) (now : Writer) :
    Option String × WriteTracker :=
  ((tracker.writer? path).map (conflictWarning path · now), ⟨(path, now) :: tracker.writes⟩)

end WriteTracker

end Rulebook
