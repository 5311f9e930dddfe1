import Rulebook.Document.Program
import Rulebook.Execute.Options
import Rulebook.Proofs.Value.Parts

/-!
What a document has to be for its reading to be accepted.

`Decoded.Always` says that what is read has a property, if anything is. It follows the parts
of a reading (`always_map`, `always_seq` and so on), so a property of what is read for one
part is carried to lists and records of such parts, and from the kinds of conditions to whole
condition trees (`Condition.Carried.always`). For programs this says that no membership test is
without options, at any depth of a condition (`Program.not_vacant_of_read`), and for the options
of a run that they allow it a firing.
-/

namespace Rulebook

/-! ### Properties of what is read -/

namespace Decoded

variable {α β : Type} {holds : α → Prop}

/-- What is accepted has a property. -/
def Always (holds : α → Prop) (x : Decoded α) : Prop := ∀ a, x = .accepted a → holds a

@[simp] theorem always_accepted {a : α} : Always holds (.accepted a) ↔ holds a := by
  constructor
  · intro always
    exact always a rfl
  · rintro held _ ⟨⟩
    exact held

@[simp] theorem always_refused {problems : List Problem} : Always holds (.refused problems) :=
  nofun

theorem always_map {f : α → β} {holds : β → Prop} {x : Decoded α} :
    Always holds (f <$> x) ↔ Always (fun a => holds (f a)) x := by
  cases x with
  | accepted a => rw [map_accepted, always_accepted, always_accepted]
  | refused ps => exact iff_of_true always_refused always_refused

/-- What is read of two parts depends on both. -/
theorem always_seq {f : Decoded (α → β)} {x : Decoded α} {holds : β → Prop} :
    Always holds (f <*> x) ↔ Always (fun g => Always (fun a => holds (g a)) x) f := by
  cases f with
  | accepted g =>
      rw [always_accepted]
      cases x with
      | accepted a => rw [seq_accepted, always_accepted, always_accepted]
      | refused qs => exact iff_of_true always_refused always_refused
  | refused ps => cases x <;> exact iff_of_true always_refused always_refused

theorem always_within {step : Step} {x : Decoded α} :
    Always holds (within step x) ↔ Always holds x := by
  cases x with
  | accepted a => rw [within_accepted]
  | refused ps => exact iff_of_true always_refused always_refused

/-- A check lets through what meets its demand. -/
theorem check_eq_accepted_iff {demand : α → Bool} {cause : Cause} {x : Decoded α} {a : α} :
    check demand cause x = .accepted a ↔ x = .accepted a ∧ demand a = true := by
  cases x with
  | refused ps => simp [check]
  | accepted b =>
      by_cases met : demand b = true
      · simp only [check, if_pos met, accepted.injEq, iff_self_and]
        rintro rfl
        exact met
      · simp only [check, if_neg met, fail, reduceCtorEq, accepted.injEq, false_iff, not_and]
        rintro rfl
        exact met

/-- A further demand is met by what is read. -/
theorem always_check {demand : α → Bool} {cause : Cause} {x : Decoded α} :
    Always (fun a => demand a = true) (check demand cause x) :=
  fun _ accepted => (check_eq_accepted_iff.mp accepted).2

end Decoded

namespace Reader

variable {α : Type} {read : Reader α} {holds : α → Prop} {names : List String}
  {fields : List (Key × Value)}

/-- An entry that is read is a part of the object. -/
theorem part_of_found {name : String} {v : Value} (found : entry? names fields = some (name, v)) :
    v.Part (.object fields) := by
  obtain ⟨_, _, found⟩ := List.exists_of_findSome?_eq_some found
  obtain ⟨w, present, same⟩ := Option.map_eq_some_iff.mp found
  cases same
  exact .of_get? present

/-- What is read of an entry that must be there. -/
theorem always_required (each : ∀ v : Value, v.Part (.object fields) → (read v).Always holds) :
    (required names read fields).Always holds := by
  unfold required
  split
  · rename_i found
    exact Decoded.always_within.mpr (each _ (part_of_found found))
  · exact nofun

/-- What is read of an entry that may be left out. -/
theorem always_defaulted {default : α} (left : holds default)
    (each : ∀ v : Value, v.Part (.object fields) → (read v).Always holds) :
    (defaulted names default read fields).Always holds := by
  unfold defaulted
  split
  · rename_i found
    exact Decoded.always_within.mpr (each _ (part_of_found found))
  · exact Decoded.always_accepted.mpr left

/-- Items are accepted one by one. -/
theorem always_itemsFrom {items : List Value} (each : ∀ v ∈ items, (read v).Always holds)
    (i : Nat) : (itemsFrom read i items).Always fun results => ∀ a ∈ results, holds a := by
  induction items generalizing i with
  | nil => exact Decoded.always_accepted.mpr (by simp)
  | cons v rest ih =>
      obtain ⟨here, others⟩ := List.forall_mem_cons.mp each
      rw [itemsFrom, Decoded.always_seq, Decoded.always_map, Decoded.always_within]
      intro a first results later
      exact List.forall_mem_cons.mpr ⟨here a first, ih others (i + 1) results later⟩

/-- What is read of the items of a list. -/
theorem always_list {v : Value} (each : ∀ w : Value, w.Part v → (read w).Always holds) :
    (list read v).Always fun results => ∀ a ∈ results, holds a := by
  cases v with
  | list items => exact always_itemsFrom (fun w member => each w (.item member)) 0
  | _ => exact nofun

/-- What is read of a list that may not be empty. -/
theorem always_nonEmptyList {v : Value} (each : ∀ w : Value, w.Part v → (read w).Always holds) :
    (nonEmptyList read v).Always fun results => results ≠ [] ∧ ∀ a ∈ results, holds a := by
  intro results accepted
  obtain ⟨listed, filled⟩ := Decoded.check_eq_accepted_iff.mp accepted
  exact ⟨by simpa using filled, always_list each results listed⟩

theorem always_record {read : List (Key × Value) → Decoded α} {v : Value}
    (each : ∀ fields, v = .object fields → (read fields).Always holds) :
    (record read v).Always holds := by
  cases v with
  | object fields => exact each fields rfl
  | _ => exact nofun

end Reader

/-! ### Conditions -/

namespace Condition

/-- Some membership test in the condition has no options. -/
inductive Vacant : Condition → Prop where
  | oneOf {value : Operand} : Vacant (.oneOf value [])
  | all {conditions : List Condition} {condition : Condition} :
      condition ∈ conditions → Vacant condition → Vacant (.all conditions)
  | any {conditions : List Condition} {condition : Condition} :
      condition ∈ conditions → Vacant condition → Vacant (.any conditions)
  | not {condition : Condition} : Vacant condition → Vacant (.not condition)

theorem not_vacant_of_all {conditions : List Condition} (filled : ¬ (all conditions).Vacant) :
    ∀ c ∈ conditions, ¬ c.Vacant :=
  fun _ member vacant => filled (.all member vacant)

theorem not_vacant_of_any {conditions : List Condition} (filled : ¬ (any conditions).Vacant) :
    ∀ c ∈ conditions, ¬ c.Vacant :=
  fun _ member vacant => filled (.any member vacant)

theorem not_vacant_of_not {condition : Condition} (filled : ¬ (not condition).Vacant) :
    ¬ condition.Vacant :=
  fun vacant => filled (.not vacant)

/-! A condition is read by the readers of its entries, as any other part of a document is. -/

/-- The condition of a negation is a required field. -/
theorem readPart_eq (fields : List (Key × Value)) :
    readPart fields = Reader.required ["condition"] read fields := by
  induction fields with
  | nil => rfl
  | cons entry rest ih =>
      obtain ⟨k, v⟩ := entry
      by_cases named : k = .text "condition"
      · simp [readPart, Reader.required, Reader.entry?, Fields.get?, named]
      · simp [readPart, Reader.required, Reader.entry?, Fields.get?, named, ih]

theorem readItems_eq (i : Nat) (items : List Value) :
    readItems i items = Reader.itemsFrom read i items := by
  induction items generalizing i with
  | nil => rfl
  | cons v rest ih => rw [readItems, Reader.itemsFrom, ih]

/-- The conditions of a list are a non-empty list. -/
theorem readList_eq (v : Value) : readList v = Reader.nonEmptyList read v := by
  cases v with
  | list items =>
      rw [readList, readItems_eq]
      rfl
  | _ => rfl

theorem readParts_eq (fields : List (Key × Value)) :
    readParts fields = Reader.required ["conditions"] (Reader.nonEmptyList read) fields := by
  induction fields with
  | nil => rfl
  | cons entry rest ih =>
      obtain ⟨k, v⟩ := entry
      by_cases named : k = .text "conditions"
      · simp [readParts, Reader.required, Reader.entry?, Fields.get?, named, readList_eq]
      · simp [readParts, Reader.required, Reader.entry?, Fields.get?, named, ih]

/-- A property that reading gives to each kind of condition, and to a composed condition where its
parts have it. -/
structure Carried (holds : Condition → Prop) : Prop where
  compare : ∀ fields, (readCompare fields).Always holds
  present : ∀ fields, (readPresent fields).Always holds
  oneOf : ∀ fields, (readOneOf fields).Always holds
  matching : ∀ fields, (readMatching fields).Always holds
  all : ∀ parts, parts ≠ [] → (∀ c ∈ parts, holds c) → holds (.all parts)
  any : ∀ parts, parts ≠ [] → (∀ c ∈ parts, holds c) → holds (.any parts)
  not : ∀ part, holds part → holds (.not part)

theorem always_readParts {holds : Condition → Prop} {fields : List (Key × Value)}
    (each : ∀ v : Value, v.Part (.object fields) → ∀ w : Value, w.Part v → (read w).Always holds) :
    (readParts fields).Always fun parts => parts ≠ [] ∧ ∀ c ∈ parts, holds c := by
  rw [readParts_eq]
  exact Reader.always_required fun v part => Reader.always_nonEmptyList (each v part)

/-- Every condition that is read has such a property. -/
theorem Carried.always {holds : Condition → Prop} (carried : Carried holds) (v : Value) :
    (read v).Always holds := by
  -- The entry that holds the parts lies between a condition and its parts, so the induction is on
  -- the condition and on all values in it.
  suffices both : (read v).Always holds ∧ ∀ w : Value, w.Part v → (read w).Always holds from both.1
  induction v using Value.part_induction with
  | step v ih =>
      refine ⟨?_, fun w part => (ih w part).1⟩
      cases v with
      | object fields =>
          unfold read
          split
          · exact nofun
          · exact nofun
          · split
            · exact nofun
            · exact Decoded.always_within.mpr (carried.compare fields)
            · exact Decoded.always_within.mpr (carried.present fields)
            · exact Decoded.always_within.mpr (carried.oneOf fields)
            · exact Decoded.always_within.mpr (carried.matching fields)
            · rw [Decoded.always_within, Decoded.always_map]
              intro parts accepted
              obtain ⟨filled, each⟩ := always_readParts (fun v part => (ih v part).2) parts accepted
              exact carried.all parts filled each
            · rw [Decoded.always_within, Decoded.always_map]
              intro parts accepted
              obtain ⟨filled, each⟩ := always_readParts (fun v part => (ih v part).2) parts accepted
              exact carried.any parts filled each
            · rw [Decoded.always_within, Decoded.always_map, readPart_eq]
              intro part accepted
              exact carried.not part
                (Reader.always_required (fun v part => (ih v part).1) part accepted)
      | _ =>
          unfold read
          exact nofun

section Leaves

variable {fields : List (Key × Value)}

theorem not_vacant_of_readCompare : (readCompare fields).Always (¬ Vacant ·) := by
  rw [readCompare, Decoded.always_seq, Decoded.always_seq, Decoded.always_map]
  exact fun lhs _ operator _ rhs _ => nofun

theorem not_vacant_of_readPresent : (readPresent fields).Always (¬ Vacant ·) := by
  rw [readPresent, Decoded.always_map]
  exact fun fact _ => nofun

/-- Options are required to be a non-empty list. -/
theorem not_vacant_of_readOneOf : (readOneOf fields).Always (¬ Vacant ·) := by
  have filled : ∀ v, (Reader.nonEmptyList Operand.read v).Always (!·.isEmpty) :=
    fun _ => Decoded.always_check
  rw [readOneOf, Decoded.always_seq, Decoded.always_map]
  intro value _ options accepted
  rintro ⟨⟩
  exact nomatch Reader.always_required (fun v _ => filled v) [] accepted

theorem not_vacant_of_readMatching : (readMatching fields).Always (¬ Vacant ·) := by
  rw [readMatching, Decoded.always_seq, Decoded.always_seq, Decoded.always_map]
  exact fun value _ pattern _ ignoreCase _ => nofun

end Leaves

/-- No reader of conditions accepts an empty list of parts. -/
theorem carried_not_vacant : Carried (¬ Vacant ·) where
  compare _ := not_vacant_of_readCompare
  present _ := not_vacant_of_readPresent
  oneOf _ := not_vacant_of_readOneOf
  matching _ := not_vacant_of_readMatching
  all parts _ each := by
    rintro (_ | ⟨member, vacant⟩)
    exact each _ member vacant
  any parts _ each := by
    rintro (_ | _ | ⟨member, vacant⟩)
    exact each _ member vacant
  not part filled := by
    rintro (_ | _ | _ | vacant)
    exact filled vacant

/-- A condition that was read has options in all its membership tests. -/
theorem not_vacant_of_read (v : Value) : (read v).Always (¬ Vacant ·) := carried_not_vacant.always v

end Condition

/-! ### Programs -/

theorem Rule.not_vacant_of_read (v : Value) : (read v).Always (¬ ·.condition.Vacant) := by
  refine Reader.always_record fun fields _ => ?_
  simp only [readFields, Decoded.always_seq, Decoded.always_map]
  intro _ _ _ _ _ _ _ _ _ _ _ _ condition accepted _ _ _ _ _ _
  exact Reader.always_required (fun v _ => Condition.not_vacant_of_read v) condition accepted

theorem Constraint.not_vacant_of_read (v : Value) : (read v).Always (¬ ·.assertion.Vacant) := by
  refine Reader.always_record fun fields _ => ?_
  simp only [Decoded.always_seq, Decoded.always_map]
  intro _ _ _ _ assertion accepted _ _
  exact Reader.always_required (fun v _ => Condition.not_vacant_of_read v) assertion accepted

/-- The conditions of a program: those of its rules and the assertions of its constraints. -/
def Program.conditions (program : Program) : List Condition :=
  program.rules.map (·.condition) ++ program.constraints.map (·.assertion)

/-- No condition of a program that was read has a membership test without options. -/
theorem Program.not_vacant_of_read (v : Value) :
    (read v).Always fun program => ∀ c ∈ program.conditions, ¬ c.Vacant := by
  refine Reader.always_record fun fields _ => ?_
  simp only [Decoded.always_seq, Decoded.always_map]
  intro _ _ _ _ _ _ rules accepted constraints accepted' _ _ _ _
  refine List.forall_mem_append.mpr ⟨?_, ?_⟩
  · have each := Reader.always_defaulted (by simp)
      (fun _ _ => Reader.always_list fun v _ => Rule.not_vacant_of_read v) rules accepted
    exact List.forall_mem_map.mpr each
  · have each := Reader.always_defaulted (by simp)
      (fun _ _ => Reader.always_list fun v _ => Constraint.not_vacant_of_read v) constraints
      accepted'
    exact List.forall_mem_map.mpr each

/-! ### Options -/

/-- Options that were read allow at least one firing, as the settings do that they fall back
to. -/
theorem ExecutionOptions.firings_pos_of_read {settings : Settings}
    (positive : 0 < settings.maxRuleFirings) (v : Value) :
    (read settings v).Always (0 < ·.maxRuleFirings) := by
  have given : ∀ v, (Settings.readFirings v).Always (0 < ·) :=
    fun _ cap accepted => of_decide_eq_true (Decoded.always_check cap accepted)
  refine Reader.always_record fun fields _ => ?_
  simp only [Decoded.always_seq, Decoded.always_map]
  intro _ _ cap accepted _ _ _ _ _ _
  exact Reader.always_defaulted positive (fun v _ => given v) cap accepted

end Rulebook
