import Rulebook.Execute.Run
import Rulebook.Proofs.Check.Typing
import Rulebook.Proofs.State.Keyed
import Rulebook.Proofs.Value.Display

/-!
Plain rules and programs: only the parts that decide what a run does to the facts. Fixed
programs, on which a statement is tried or refuted, are written with them.
-/

namespace Rulebook

def Rule.plain (id : String) (priority : Int) (condition : Condition)
    (thenActions elseActions : List Action) : Rule :=
  { id := id, name := id, description := none, tags := [], priority := priority, mode := none,
    condition := condition, thenActions := thenActions, elseActions := elseActions,
    stopProcessing := false }

/-- A program over the fields of one entity, without units. -/
def Program.plain (entity : String) (fields : List (String × ScalarType)) (rules : List Rule) :
    Program :=
  { domain := .businessRules, description := none,
    entities := [⟨entity, fields.map fun (name, type) => ⟨name, type, none, none⟩, none⟩],
    rules := rules, constraints := [], examples := [], config := none }

/-- The paths of a plain program lead to the fields of its entity. -/
theorem Program.plain_resolve {entity path : String} {fields : List (String × ScalarType)}
    {rules : List Rule} {decl : FieldDecl}
    (resolved : (Catalog.ofProgram (plain entity fields rules)).resolve path = .ok decl) :
    ∃ field, splitPath? path = some (entity, field) ∧ (field, decl.type) ∈ fields := by
  obtain ⟨name, field, split, found⟩ := Catalog.resolve_eq_ok_iff.mp resolved
  have member := List.mem_of_find?_eq_some found
  have named := List.find?_some found
  simp only [Catalog.fieldsOf, Catalog.ofProgram, plain, List.mem_flatMap, List.mem_filter,
    List.mem_singleton, beq_iff_eq] at member
  obtain ⟨_, ⟨rfl, rfl⟩, among⟩ := member
  obtain ⟨⟨field', type⟩, inside, rfl⟩ := List.mem_map.mp among
  cases eq_of_beq named
  exact ⟨_, split, inside⟩

def Record.payload (entity : String) (fields : Record) : Value :=
  .record [(entity, .record fields)]

theorem Record.keyed_payload {entity : String} {fields : Record}
    (distinct : (fields.map Prod.fst).Nodup) (each : ∀ entry ∈ fields, entry.2.Keyed) :
    (payload entity fields).Keyed :=
  Value.keyed_record (List.nodup_singleton entity)
    (List.forall_mem_singleton.mpr (Value.keyed_record distinct each))

def Scalar.powerOfTen (zeros : Nat) : Scalar := .int ((10 ^ zeros : Nat) : Int)

/-- A power of ten can be written as long as it has no more digits than the limit. -/
theorem Scalar.hasText_powerOfTen_iff {zeros : Nat} :
    (powerOfTen zeros).hasText = true ↔ zeros < digitLimit := by
  refine intHasText_iff.trans ?_
  rw [Int.natAbs_natCast, Nat.pow_lt_pow_iff_right (by decide)]

/-- An integer with more digits than are ever written. -/
def Scalar.long : Scalar := powerOfTen 5000

theorem Scalar.long_hasText : long.hasText = false :=
  Bool.eq_false_iff.mpr fun written => absurd (hasText_powerOfTen_iff.mp written) (by decide)

theorem Scalar.powerOfTen_ne_one {zeros : Nat} (some : 0 < zeros) : powerOfTen zeros ≠ .int 1 := by
  intro same
  have one : 10 ^ zeros = 1 := Int.ofNat.inj (Scalar.int.inj same)
  have more : 1 < 10 ^ zeros := Nat.one_lt_pow (Nat.pos_iff_ne_zero.mp some) (by decide)
  exact absurd one (Nat.ne_of_gt more)

def ExecutionOptions.once : ExecutionOptions := ⟨none, 100, true, false, false⟩

def ExecutionOptions.looping (cap : Int) : ExecutionOptions := ⟨none, cap, true, true, false⟩

/-- The computation ends with this interruption. Unlike the equation that it stands for, this
is decided by running the computation. -/
def endsWith {α : Type} (interruption : Interruption) : Except Interruption α → Bool
  | .error e => decide (e = interruption)
  | .ok _ => false

/-- The computation returns, and what it returns passes the test. -/
def returnsWith {ε α : Type} (test : α → Bool) : Except ε α → Bool
  | .error _ => false
  | .ok a => test a

/-- A test that is evaluated tells how the run ended. -/
theorem eq_error_of_endsWith {α : Type} {interruption : Interruption}
    {x : Except Interruption α} (ends : endsWith interruption x = true) :
    x = .error interruption := by
  cases x with
  | error e => exact congrArg _ (of_decide_eq_true ends)
  | ok a => cases ends

/-- Likewise with what it returned. -/
theorem eq_ok_of_returnsWith {ε α : Type} {test : α → Bool} {x : Except ε α}
    (returns : returnsWith test x = true) : ∃ a, x = .ok a ∧ test a = true := by
  cases x with
  | error e => cases returns
  | ok a => exact ⟨a, rfl, returns⟩

end Rulebook
