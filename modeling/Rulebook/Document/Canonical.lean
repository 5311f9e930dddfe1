import Rulebook.Document.Json

/-!
Canonical text: equal trees have equal text.

`Value.canonical` brings the entries of every object into the order of their names; the
order of lists means something and is kept. The texts are the JSON of that form.
-/

namespace Rulebook

/-- The order of names: by code point, character by character. -/
def nameAtMost (a b : String) : Bool := decide (¬ b < a)

namespace Value

mutual

/-- The same value with sorted entries. A name that two keys share keeps its place and
the later value. -/
def canonical : Value → Value
  | .list items => .list (canonicalItems items)
  | .object fields =>
      .object
        (Fields.ofList
          ((canonicalFields fields).mergeSort fun a b => nameAtMost a.1.name b.1.name))
  | .null => .null
  | .bool b => .bool b
  | .int n => .int n
  | .float x => .float x
  | .text s => .text s

def canonicalItems : List Value → List Value
  | [] => []
  | v :: rest => canonical v :: canonicalItems rest

def canonicalFields : List (Key × Value) → List (Key × Value)
  | [] => []
  | (k, v) :: rest => (.text k.name, canonical v) :: canonicalFields rest

end

def canonicalText (v : Value) : String := v.canonical.json .compact

def canonicalLines (v : Value) : String := v.canonical.json .pretty

end Value

end Rulebook
