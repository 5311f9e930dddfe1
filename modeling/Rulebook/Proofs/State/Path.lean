import Mathlib.Data.List.TakeWhile
import Rulebook.Proofs.State.Footprint

/-!
The language of paths.

A path is two names with a dot between them; a name is not empty and has no dot of its own.
`splitPath?` cuts a text at its first dot and looks for a second one. It accepts exactly the paths,
with their two names (`splitPath?_eq_some_iff`), and so does whoever cuts a text at every dot and
counts the parts (`twoParts?_eq`).
-/

namespace Rulebook

/-- A text that can stand on either side of the dot of a path. -/
structure IsName (text : String) : Prop where
  filled : text ≠ ""
  dotless : '.' ∉ text.toList

instance (text : String) : Decidable (IsName text) :=
  decidable_of_iff (text ≠ "" ∧ '.' ∉ text.toList)
    ⟨fun name => ⟨name.1, name.2⟩, fun name => ⟨name.filled, name.dotless⟩⟩

def dotted (entity field : String) : String := entity ++ "." ++ field

def Malformed (path : String) : Prop :=
  ∀ entity field, IsName entity → IsName field → path ≠ dotted entity field

variable {path entity field : String}

theorem toList_dotted : (dotted entity field).toList = entity.toList ++ '.' :: field.toList := by
  simp [dotted]

theorem IsName.toList_ne_nil {text : String} (name : IsName text) : text.toList ≠ [] := by
  simpa using name.filled

/-! ### Cutting at the first dot -/

theorem splitPath?_dotted (first : IsName entity) (second : IsName field) :
    splitPath? (dotted entity field) = some (entity, field) := by
  have before : ∀ c ∈ entity.toList, decide (c ≠ '.') = true := by
    intro c member
    exact decide_eq_true fun dot => first.dotless (dot ▸ member)
  have taken : (entity.toList ++ '.' :: field.toList).takeWhile (· ≠ '.') = entity.toList := by
    rw [List.takeWhile_append_of_pos before, List.takeWhile_cons_of_neg (by decide),
      List.append_nil]
  have dropped : (entity.toList ++ '.' :: field.toList).dropWhile (· ≠ '.') =
      '.' :: field.toList := by
    rw [List.dropWhile_append_of_pos before, List.dropWhile_cons_of_neg (by decide)]
  have names : ¬ (entity.toList = [] ∨ field.toList = [] ∨ '.' ∈ field.toList) := by
    rintro (empty | empty | dot)
    · exact first.toList_ne_nil empty
    · exact second.toList_ne_nil empty
    · exact second.dotless dot
  simp only [splitPath?, toList_dotted, taken, dropped, if_neg names, String.ofList_toList]

theorem isName_of_splitPath? (split : splitPath? path = some (entity, field)) :
    IsName entity ∧ IsName field := by
  unfold splitPath? at split
  dsimp only at split
  split at split
  · cases split
  · split at split
    · cases split
    · rename_i names
      obtain ⟨filled, after, dotless⟩ := not_or.mp names |>.imp id not_or.mp
      cases split
      refine ⟨⟨by simpa using filled, fun dot => ?_⟩, by simpa using after, by simpa using dotless⟩
      have apart := List.mem_takeWhile_imp (String.toList_ofList ▸ dot)
      exact of_decide_eq_true apart rfl

/-- A text splits into two parts exactly if it is the path of these two names. -/
theorem splitPath?_eq_some_iff :
    splitPath? path = some (entity, field) ↔
      path = dotted entity field ∧ IsName entity ∧ IsName field := by
  constructor
  · intro split
    have same : path.toList = (dotted entity field).toList :=
      (toList_of_splitPath? split).trans toList_dotted.symm
    exact ⟨String.toList_injective same, isName_of_splitPath? split⟩
  · rintro ⟨rfl, first, second⟩
    exact splitPath?_dotted first second

/-- A path is not split just when it is malformed. -/
theorem splitPath?_eq_none_iff : splitPath? path = none ↔ Malformed path := by
  rw [Option.eq_none_iff_forall_ne_some]
  constructor
  · intro none entity field first second same
    exact none (entity, field) (splitPath?_eq_some_iff.mpr ⟨same, first, second⟩)
  · rintro malformed ⟨entity, field⟩ split
    obtain ⟨same, first, second⟩ := splitPath?_eq_some_iff.mp split
    exact malformed entity field first second same

/-! ### Cutting at every dot -/

/-- The parts of a text between its dots. -/
def partsAtDots (path : String) : List String := (path.toList.splitOn '.').map String.ofList

/-- The parts of a text that has two of them, neither of which is empty. -/
def twoParts? (path : String) : Option (String × String) :=
  match partsAtDots path with
  | [entity, field] => if entity = "" ∨ field = "" then none else some (entity, field)
  | _ => none

/-- The plain split at dots gives the same two parts. -/
theorem partsAtDots_dotted (first : IsName entity) (second : IsName field) :
    partsAtDots (dotted entity field) = [entity, field] := by
  rw [partsAtDots, toList_dotted, List.splitOn_append_cons_self_of_not_mem first.dotless,
    List.splitOn_eq_singleton second.dotless]
  simp

/-- A text that is one part has no dot. -/
theorem dotless_of_splitOn {text part : List Char} (single : text.splitOn '.' = [part]) :
    '.' ∉ text ∧ part = text := by
  by_cases dot : '.' ∈ text
  · obtain ⟨before, after, rfl, dotless⟩ := List.eq_append_cons_of_mem dot
    rw [List.splitOn_append_cons_self_of_not_mem dotless] at single
    exact absurd (List.cons.inj single).2 (List.splitOn_ne_nil '.' after)
  · rw [List.splitOn_eq_singleton dot] at single
    exact ⟨dot, (List.singleton_inj.mp single).symm⟩

/-- A text that has two parts is the path of them, and neither has a dot. -/
theorem eq_dotted_of_partsAtDots (parts : partsAtDots path = [entity, field]) :
    path = dotted entity field ∧ '.' ∉ entity.toList ∧ '.' ∉ field.toList := by
  by_cases dot : '.' ∈ path.toList
  · obtain ⟨before, after, cut, dotless⟩ := List.eq_append_cons_of_mem dot
    rw [partsAtDots, cut, List.splitOn_append_cons_self_of_not_mem dotless, List.map_cons] at parts
    obtain ⟨rfl, rest⟩ := List.cons.inj parts
    obtain ⟨part, single, rfl⟩ := List.map_eq_singleton_iff.mp rest
    obtain ⟨dotless', rfl⟩ := dotless_of_splitOn single
    refine ⟨String.toList_injective ?_, ?_, ?_⟩
    · rw [cut, toList_dotted, String.toList_ofList, String.toList_ofList]
    · rwa [String.toList_ofList]
    · rwa [String.toList_ofList]
  · rw [partsAtDots, List.splitOn_eq_singleton dot] at parts
    cases parts

/-- Cutting at every dot and cutting at the first one come to the same. -/
theorem twoParts?_eq (path : String) : twoParts? path = splitPath? path := by
  cases split : splitPath? path with
  | some names =>
      obtain ⟨entity, field⟩ := names
      obtain ⟨rfl, first, second⟩ := splitPath?_eq_some_iff.mp split
      rw [twoParts?, partsAtDots_dotted first second]
      exact if_neg (not_or.mpr ⟨first.filled, second.filled⟩)
  | none =>
      unfold twoParts?
      split
      · rename_i entity field parts
        split
        · rfl
        · rename_i filled
          obtain ⟨first, second⟩ := not_or.mp filled
          obtain ⟨same, dotless, dotless'⟩ := eq_dotted_of_partsAtDots parts
          have malformed := splitPath?_eq_none_iff.mp split
          exact absurd same (malformed entity field ⟨first, dotless⟩ ⟨second, dotless'⟩)
      · rfl

end Rulebook
