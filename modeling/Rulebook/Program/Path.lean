/-!
Dotted paths.

A path names a field of an entity: two parts, neither of them empty, with one dot
between them. The text `route` is no such path; it names the slot for the route.
-/

namespace Rulebook

/-- The entity and the field that a path names. -/
def splitPath? (path : String) : Option (String × String) :=
  let text := path.toList
  let entity := text.takeWhile (· ≠ '.')
  match text.dropWhile (· ≠ '.') with
  | [] => none
  | _ :: field =>
      if entity = [] ∨ field = [] ∨ '.' ∈ field then none
      else some (String.ofList entity, String.ofList field)

/-- The entry of the state that holds the current route. -/
def routeSlot : String := "route"

theorem splitPath?_routeSlot : splitPath? routeSlot = none := by decide

end Rulebook
