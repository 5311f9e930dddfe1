import Rulebook.Value.Basic
import Rulebook.Number.Shortest
import Rulebook.Text.Quoted

/-!
Values as text.

`display` is how a value appears inside messages: texts quoted, lists in brackets,
objects in braces. `plain` is the text that a value is searched for as: a text
stands for itself, and booleans and null have their document spelling.

An integer with too many digits is never written out. A value that holds one has no text,
and what would show it fails.
-/

namespace Rulebook

/-! ### Which values have a text -/

/-- The most digits that an integer is written with. -/
def digitLimit : Nat := 4300

def intHasText (n : Int) : Bool := (Nat.toDigits 10 n.natAbs).length ≤ digitLimit

def Key.hasText : Key → Bool
  | .int n => intHasText n
  | _ => true

namespace Value

mutual

/-- No integer in the value has too many digits, among the keys of objects neither. -/
def hasText : Value → Bool
  | .int n => intHasText n
  | .list items => itemsHaveText items
  | .object fields => fieldsHaveText fields
  | _ => true

def itemsHaveText : List Value → Bool
  | [] => true
  | v :: rest => hasText v && itemsHaveText rest

def fieldsHaveText : List (Key × Value) → Bool
  | [] => true
  | (k, v) :: rest => k.hasText && hasText v && fieldsHaveText rest

end

end Value

/-! ### Texts -/

def displayBool (b : Bool) : String := if b then "True" else "False"

def Key.display : Key → String
  | .null => "None"
  | .bool b => displayBool b
  | .int n => toString n
  | .float x => plainNumbers.text x
  | .text s => Text.quoted s

/-- The name that a key has when only texts may be names. -/
def Key.name : Key → String
  | .text s => s
  | k => k.display

namespace Value

mutual

/-- A value inside a message. -/
def display : Value → String
  | .null => "None"
  | .bool b => displayBool b
  | .int n => toString n
  | .float x => plainNumbers.text x
  | .text s => Text.quoted s
  | .list items => "[" ++ ", ".intercalate (displayItems items) ++ "]"
  | .object fields => "\x7b" ++ ", ".intercalate (displayFields fields) ++ "\x7d"

def displayItems : List Value → List String
  | [] => []
  | v :: rest => display v :: displayItems rest

def displayFields : List (Key × Value) → List String
  | [] => []
  | (k, v) :: rest => (k.display ++ ": " ++ display v) :: displayFields rest

end

/-- The text that a value is searched for as. -/
def plain : Value → String
  | .text s => s
  | .bool b => if b then "true" else "false"
  | .null => "null"
  | v => v.display

end Value

end Rulebook
