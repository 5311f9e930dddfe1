import Rulebook.Document.Written

/-!
The record of how a condition came out.

A trace has the shape of its condition: one node a condition, children in order. The
details of a node hold the values that it looked at.
-/

namespace Rulebook

inductive ConditionTrace where
  | node (kind : String) (result : Bool) (operator : Option Operator) (details : Record)
      (children : List ConditionTrace)

namespace ConditionTrace

def kind : ConditionTrace → String
  | node kind _ _ _ _ => kind

def result : ConditionTrace → Bool
  | node _ result _ _ _ => result

def operator : ConditionTrace → Option Operator
  | node _ _ operator _ _ => operator

def details : ConditionTrace → Record
  | node _ _ _ details _ => details

def children : ConditionTrace → List ConditionTrace
  | node _ _ _ _ children => children

mutual

def toValue : ConditionTrace → Value
  | node kind result operator details children =>
      .record
        [("kind", .text kind), ("result", .bool result),
         ("operator", .ofText? (operator.map Operator.spelling)),
         ("details", .writtenRecord details), ("children", .list (toValues children))]

def toValues : List ConditionTrace → List Value
  | [] => []
  | t :: rest => toValue t :: toValues rest

end

end ConditionTrace

end Rulebook
