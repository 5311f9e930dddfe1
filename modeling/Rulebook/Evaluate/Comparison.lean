import Rulebook.Pattern.Match
import Rulebook.Pattern.Read
import Rulebook.Program.Vocabulary
import Rulebook.Value.Display
import Rulebook.Value.Equality

/-!
Comparing two values, and matching a text against a pattern.

An ordering holds only between numbers. Containment looks for text in a text, or for an
item of a list. A text that is no pattern is looked for as it stands, and a value that has
no text cannot be looked for in one.
-/

namespace Rulebook

/-! ### Text -/

def containsRun (text part : List Char) : Bool :=
  part.isPrefixOf text ||
    match text with
    | [] => false
    | _ :: rest => containsRun rest part

def occursIn (part text : String) : Bool := containsRun text.toList part.toList

/-! ### Comparison -/

namespace Value

/-- The left side holds the right one, as a part of its text or as an item. -/
def contains : Value → Value → Bool
  | .text s, v => occursIn v.plain s
  | .list items, v => hasItem items v
  | _, _ => false

def isItemOf (v : Value) : Value → Bool
  | .list items => hasItem items v
  | _ => false

end Value

def Operator.holds (lhs : Value) (operator : Operator) (rhs : Value) : Bool :=
  match operator with
  | equals => lhs.strictEq rhs
  | notEquals => !lhs.strictEq rhs
  | greater => rhs.less lhs
  | greaterOrEqual => rhs.less lhs || lhs.sameNumber rhs
  | less => lhs.less rhs
  | lessOrEqual => lhs.less rhs || lhs.sameNumber rhs
  | contains => lhs.contains rhs
  | memberOf => lhs.isItemOf rhs

/-- The comparison looks for a value in a text, and the value has none. -/
def Operator.lacksText (operator : Operator) (lhs rhs : Option Value) : Bool :=
  match operator, lhs, rhs with
  | contains, some (.text _), some v => !v.hasText
  | _, _, _ => false

/-- The one comparison that writes a value out is the search of a text for it. -/
theorem Operator.lacksText_iff {operator : Operator} {lhs rhs : Option Value} :
    operator.lacksText lhs rhs = true ↔
      operator = contains ∧ (∃ s, lhs = some (.text s)) ∧ rhs.all Value.hasText = false := by
  unfold lacksText
  split
  · simp
  · rename_i other
    refine iff_of_false Bool.false_ne_true ?_
    rintro ⟨rfl, ⟨s, rfl⟩, written⟩
    cases rhs with
    | none => cases written
    | some v => exact other s v rfl rfl rfl

/-- It does so for values that are texts alike and have a text alike. -/
theorem Operator.lacksText_congr {a b c d : Option Value} (operator : Operator)
    (texts : ∀ s, a = some (.text s) ↔ b = some (.text s))
    (written : c.all Value.hasText = d.all Value.hasText) :
    operator.lacksText a c = operator.lacksText b d := by
  rw [Bool.eq_iff_iff, lacksText_iff, lacksText_iff, written]
  simp only [texts]

/-! ### Patterns -/

/-- A pattern that is one, or a text that is looked for literally. Refusals that are no
fault of spelling stay refusals. -/
def matchesPattern (pattern : String) (ignoreCase : Bool) (text : String) :
    Except Pattern.Refusal Bool :=
  match Pattern.read ignoreCase pattern with
  | .ok node => .ok (node.occursIn text)
  | .error .malformed =>
      if ignoreCase then .ok (occursIn (Text.lowercase pattern) (Text.lowercase text))
      else .ok (occursIn pattern text)
  | .error refusal => .error refusal

end Rulebook
