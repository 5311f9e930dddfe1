import Rulebook.Value.Basic

/-!
When two values are equal, and which of two numbers is the greater.

`strictEq` is the equality that conditions and change detection use: integers and
floating point numbers meet on one number line, lists are compared item by item, and
a boolean equals only a boolean. Objects are compared as mappings by `agrees`, the
coarser relation that counts booleans as the integers 0 and 1.
-/

namespace Rulebook

namespace Value

/-! ### Numbers -/

/-- Where a number stands on the number line. -/
def position? : Value → Option Position
  | .int n => some (.ofInt n)
  | .float x => x.position
  | _ => none

/-- Where a scalar stands when booleans count as 0 and 1. -/
def looseOf? : Value → Option Position
  | .bool b => some (.ofInt b.toInt)
  | v => v.position?

def less (a b : Value) : Bool :=
  match a.position?, b.position? with
  | some p, some q => p.less q
  | _, _ => false

def sameNumber (a b : Value) : Bool :=
  match a.position?, b.position? with
  | some p, some q => p == q
  | _, _ => false

end Value

namespace Key

def toValue : Key → Value
  | .null => .null
  | .bool b => .bool b
  | .int n => .int n
  | .float x => .float x
  | .text s => .text s

/-- Two keys find the same entry: the same text, both null, or the same number when
booleans count as 0 and 1. A `nan` finds itself only. -/
def same (k l : Key) : Bool :=
  decide (k = l) ||
    match k.toValue.looseOf?, l.toValue.looseOf? with
    | some p, some q => p == q
    | _, _ => false

end Key

namespace Fields

def find? (key : Key) : List (Key × Value) → Option Value
  | [] => none
  | (k, v) :: rest => if k.same key then some v else find? key rest

/-- Replaces the value that a key finds, keeping the key there, or adds an entry. -/
def put (key : Key) (value : Value) : List (Key × Value) → List (Key × Value)
  | [] => [(key, value)]
  | (k, v) :: rest => if k.same key then (k, value) :: rest else (k, v) :: put key value rest

end Fields

namespace Value

/-- Scalars agree when they are the same datum, or the same number when booleans count
as 0 and 1. -/
def scalarAgrees (a b : Value) : Bool :=
  match a, b with
  | .null, .null => true
  | .text s, .text t => s == t
  | .float x, .float y => decide (x = y) || x.position.any fun p => y.position == some p
  | a, b =>
      match a.looseOf?, b.looseOf? with
      | some p, some q => p == q
      | _, _ => false

mutual

/-- Agreement of values inside objects: scalars by `scalarAgrees`, lists item by item,
objects as mappings. -/
def agrees : Value → Value → Bool
  | .list xs, .list ys => agreesItems xs ys
  | .object fs, .object gs => fs.length == gs.length && agreesFields fs gs
  | .list _, _ | .object _, _ => false
  | a, b => scalarAgrees a b
termination_by structural a => a

def agreesItems : List Value → List Value → Bool
  | [], [] => true
  | x :: xs, y :: ys => agrees x y && agreesItems xs ys
  | _, _ => false
termination_by structural xs => xs

/-- Every entry on the left has an agreeing one on the right. -/
def agreesFields : List (Key × Value) → List (Key × Value) → Bool
  | [], _ => true
  | (k, v) :: fs, gs =>
      (match Fields.find? k gs with
        | some w => agrees v w
        | none => false) && agreesFields fs gs
termination_by structural fs => fs

end

mutual

/-- Equality without coercion between booleans and numbers. -/
def strictEq : Value → Value → Bool
  | .bool a, .bool b => a == b
  | .null, .null => true
  | .text s, .text t => s == t
  | .list xs, .list ys => strictEqItems xs ys
  | .object fs, .object gs => agrees (.object fs) (.object gs)
  | a, b => sameNumber a b
termination_by structural a => a

def strictEqItems : List Value → List Value → Bool
  | [], [] => true
  | x :: xs, y :: ys => strictEq x y && strictEqItems xs ys
  | _, _ => false
termination_by structural xs => xs

end

def hasItem (items : List Value) (v : Value) : Bool := items.any fun item => item.strictEq v

end Value

end Rulebook
