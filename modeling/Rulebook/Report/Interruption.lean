import Rulebook.Pattern.Read
import Rulebook.State.Store

/-!
Interruptions: what ends an operation without a result.

They are no complaints about a program or its facts, which are reported as issues, and
nothing inside an operation takes them.
-/

namespace Rulebook

/-- Why an operation ends without a result. -/
inductive Interruption where
  | store (error : StoreError)
  | pattern (refusal : Pattern.Refusal)
  /-- An integer is too long to be shown or searched for. -/
  | tooManyDigits
  | sumOutOfRange
  | unsettled
deriving DecidableEq

end Rulebook
