import Rulebook.Proofs.Evaluate.Shape

/-!
The absent facts that a trace lists.

A comparison and a test for one of some values list the facts that they looked for in vain among
their details, in order and nothing else (`ConditionTrace.Explains`). A test for presence and a
match against a pattern list none, so they are explained only where there was nothing to list:
`leaf_explained_iff` says of every leaf of a trace, at any depth, that it is explained exactly
unless it is one of these two and its own fact is absent.
-/

namespace Rulebook

/-! ### Lists of absent facts -/

/-- The node lists the facts that its condition names and the store does not have: it has such an
entry exactly if there are any, and the entry has all of them in order. -/
structure ConditionTrace.Explains (store : Store) (part : Condition) (node : ConditionTrace) :
    Prop where
  has_entry_iff : (∃ entry, Fields.get? "missing" node.details = some entry) ↔
    ∃ path ∈ part.paths, store.read path = none
  entry_eq : ∀ entry, Fields.get? "missing" node.details = some entry →
    entry = .texts (part.paths.filter fun path => (store.read path).isNone)

/-- A condition that looks at facts itself and combines no others. -/
def Condition.isLeaf : Condition → Bool
  | .compare .. | .present _ | .oneOf .. | .matching .. => true
  | .all _ | .any _ | .not _ => false

/-- The condition tests a fact for presence, or against a pattern, and the fact is absent. -/
inductive Condition.LooksInVain (store : Store) : Condition → Prop where
  | present {fact : FactRef} : store.read fact.path = none → LooksInVain store (.present fact)
  | matching {ref : FactRef} {pattern : String} {ignoreCase : Bool} :
      store.read ref.path = none → LooksInVain store (.matching (.fact ref) pattern ignoreCase)

/-- Of the facts that operands name, the absent ones are listed. -/
theorem absentPaths_eq_filter (store : Store) (operands : List Operand) :
    absentPaths store operands =
      (operands.flatMap Operand.paths).filter fun path => (store.read path).isNone := by
  induction operands with
  | nil => rfl
  | cons operand rest ih =>
      rw [absentPaths, List.filterMap_cons, List.flatMap_cons, List.filter_append, ← ih]
      cases operand with
      | literal value units => rfl
      | fact ref =>
          cases found : store.read ref.path <;>
            simp [absentPaths, Operand.absentPath?, Operand.resolve, Operand.path?, Operand.paths,
              found]

namespace ConditionTrace

variable {store : Store} {part : Condition} {node : ConditionTrace}

/-- A node whose details end in the list of absent facts is explained. -/
theorem explains_of_missingEntry
    (ends : Fields.get? "missing" node.details = Fields.get? "missing"
      (missingEntry (part.paths.filter fun path => (store.read path).isNone))) :
    node.Explains store part := by
  cases absent : part.paths.filter fun path => (store.read path).isNone with
  | nil =>
      rw [absent] at ends
      have present := List.filter_eq_nil_iff.mp absent
      constructor
      · simpa [ends, missingEntry, Fields.get?] using present
      · simp [ends, missingEntry, Fields.get?]
  | cons path rest =>
      have member : path ∈ part.paths.filter fun path => (store.read path).isNone := by
        simp [absent]
      obtain ⟨named, isAbsent⟩ := List.mem_filter.mp member
      rw [absent] at ends
      constructor
      · exact iff_of_true ⟨_, ends⟩ ⟨path, named, Option.isNone_iff_eq_none.mp isAbsent⟩
      · intro entry found
        rw [absent, ← Option.some.inj (ends.symm.trans found)]

/-- A node without such a list is explained if no fact is absent. -/
theorem explains_iff_of_unlisted (unlisted : Fields.get? "missing" node.details = none) :
    node.Explains store part ↔ ¬ ∃ path ∈ part.paths, store.read path = none := by
  constructor
  · intro explains absent
    obtain ⟨entry, listed⟩ := explains.has_entry_iff.mpr absent
    cases unlisted.symm.trans listed
  · intro present
    exact ⟨iff_of_false (by simp [unlisted]) present, by simp [unlisted]⟩

end ConditionTrace

/-! ### Leaves -/

namespace Condition

variable {store : Store} {part : Condition} {node : ConditionTrace}

/-- The trace of a leaf is explained unless it looks in vain for a fact that it does not list. -/
theorem explains_iff_of_evaluate (leaf : part.isLeaf = true)
    (evaluated : part.evaluate store = .ok node) :
    node.Explains store part ↔ ¬ part.LooksInVain store := by
  cases part with
  | compare lhs operator rhs =>
      obtain ⟨_, rfl⟩ := evaluate_compare_eq_ok_iff.mp evaluated
      refine iff_of_true (ConditionTrace.explains_of_missingEntry ?_) (by rintro ⟨⟩)
      simp [compareTrace, absentPaths_eq_filter, ConditionTrace.details, Fields.get?, paths]
  | oneOf value options =>
      cases evaluated
      refine iff_of_true (ConditionTrace.explains_of_missingEntry ?_) (by rintro ⟨⟩)
      simp [oneOfTrace, absentPaths_eq_filter, ConditionTrace.details, Fields.get?, paths]
  -- The last two kinds never list a path, so they do not explain what is absent.
  | present fact =>
      cases evaluated
      rw [ConditionTrace.explains_iff_of_unlisted rfl, not_iff_not]
      constructor
      · rintro ⟨path, named, absent⟩
        rw [List.mem_singleton.mp named] at absent
        exact .present absent
      · rintro ⟨absent⟩
        exact ⟨_, List.mem_singleton_self _, absent⟩
  | matching value pattern ignoreCase =>
      rw [eq_of_evaluate_matching evaluated, ConditionTrace.explains_iff_of_unlisted rfl,
        not_iff_not]
      constructor
      · rintro ⟨path, named, absent⟩
        cases value with
        | literal value units => cases named
        | fact ref =>
            rw [List.mem_singleton.mp named] at absent
            exact .matching absent
      · rintro (_ | absent)
        exact ⟨_, List.mem_singleton_self _, absent⟩
  | all conditions => cases leaf
  | any conditions => cases leaf
  | not condition => cases leaf

end Condition

/-- At any depth of a trace, a leaf lists exactly the facts that it looked for in vain, unless it
tests a fact that is absent for presence or against a pattern: then it lists none. -/
theorem leaf_explained_iff (condition : Condition) (store : Store) (trace : ConditionTrace)
    (evaluated : condition.evaluate store = .ok trace) :
    condition.Throughout (fun part node => part.isLeaf = true →
      (node.Explains store part ↔ ¬ part.LooksInVain store)) trace :=
  Condition.throughout_of_evaluate
    (fun _ _ evaluated leaf => Condition.explains_iff_of_evaluate leaf evaluated)
    condition evaluated

def bareKettle : Condition :=
  .all [.compare (.fact ⟨"kettle.lid", none⟩) .equals (.fact ⟨"kettle.handle", none⟩),
    .oneOf (.literal (.int 1) none) [.fact ⟨"kettle.lid", none⟩],
    .present ⟨"kettle.lid", none⟩,
    .matching (.fact ⟨"kettle.label", none⟩) "tin" false]

/-- The comparison lists both facts and the test for one of some values the lid, and the other two
list none. -/
theorem bareKettle_explained :
    ∃ trace, bareKettle.evaluate (kettleStore "hall") = .ok trace ∧
      (trace.children.map fun node => Fields.get? "missing" node.details) =
        [some (.texts ["kettle.lid", "kettle.handle"]), some (.texts ["kettle.lid"]), none, none] ∧
      bareKettle.Throughout (fun part node => part.isLeaf = true →
        (node.Explains (kettleStore "hall") part ↔
          ¬ part.LooksInVain (kettleStore "hall"))) trace :=
  ⟨_, rfl, rfl, leaf_explained_iff bareKettle (kettleStore "hall") _ rfl⟩

/-- The test for presence looks for the lid in vain and does not list it. -/
theorem bareKettle_unlisted :
    ∃ trace, bareKettle.evaluate (kettleStore "hall") = .ok trace ∧
      ¬ bareKettle.Throughout (fun part node => part.isLeaf = true →
        node.Explains (kettleStore "hall") part) trace := by
  refine ⟨_, rfl, ?_⟩
  rintro ⟨_, _ | ⟨_, _ | ⟨_, _ | ⟨⟨presence, _⟩, _⟩⟩⟩⟩
  obtain ⟨entry, listed⟩ := (presence rfl).has_entry_iff.mpr
    ⟨"kettle.lid", List.mem_singleton_self _, rfl⟩
  cases listed

end Rulebook
