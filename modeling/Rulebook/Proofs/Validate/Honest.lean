import Rulebook.Proofs.Run.Plain
import Rulebook.Proofs.Validate.Operands

/-!
Units of facts in accepted programs.

A fact may be used with a unit of its own, which should be the one that its field declares. Every
operand that a value is taken from passes a check of this, wherever it stands in a program
(`Program.Uses`). A test for existence looks at the path of its fact only (`Program.Tests`), so
the units of an accepted program are honest throughout exactly when those of its tests are
(`accepted_units_honest`).
-/

namespace Rulebook

/-- Some condition or action of the program takes a value from the fact, at whatever depth of a
rule's condition or a constraint's assertion, and in whichever branch of a rule. -/
inductive Program.Uses (program : Program) (ref : FactRef) : Prop where
  | condition {condition part : Condition} :
      condition ∈ program.conditions → part.Within condition → .fact ref ∈ part.operands →
      Uses program ref
  | action {rule : Rule} {action : Action} :
      rule ∈ program.rules → action ∈ rule.actions → action.operand? = some (.fact ref) →
      Uses program ref

/-- Some condition of the program tests whether the fact exists. -/
def Program.Tests (program : Program) (ref : FactRef) : Prop :=
  ∃ condition ∈ program.conditions, (Condition.present ref).Within condition

section Accepted

variable {program : Program} {ref : FactRef} (sound : Passed (declarationIssues program))
  (filled : ∀ condition ∈ program.conditions, ¬ condition.Vacant)

include sound in
/-- A fact that a valid program tests is declared. -/
theorem Program.Tests.declared (tests : program.Tests ref) :
    ∃ decl, (Catalog.ofProgram program).resolve ref.path = .ok decl := by
  obtain ⟨condition, member, within⟩ := tests
  obtain ⟨ruleIds, accepted⟩ := passed_of_mem_conditions sound member
  obtain ⟨found, checked⟩ := ok_of_passed (accepted.within within)
  exact Catalog.checkDeclared_resolves checked

include sound filled in
/-- What a value is taken from has passed the check of an operand. -/
theorem Program.Uses.checked (uses : program.Uses ref) :
    ∃ expected type, (Catalog.ofProgram program).checkOperand (.fact ref) expected = .ok type := by
  cases uses with
  | condition member within among =>
      obtain ⟨ruleIds, accepted⟩ := passed_of_mem_conditions sound member
      exact Condition.checkOperand_of_passed
        (Condition.not_vacant_within (filled _ member) within) (accepted.within within) among
  | action member among written =>
      obtain ⟨found, checked⟩ := checkAction_of_passed sound member among
      obtain ⟨type, typed⟩ := Catalog.checkAction_types checked written
      exact ⟨some type, type, typed⟩

end Accepted

/-- In a valid program every fact is declared, and every fact that a value is taken from is used
with the unit of its field, where both have one. So this holds of all facts of the program exactly
when it holds of those that are only tested for existence. -/
theorem accepted_units_honest (checker : Engine) (document : Value) (program : Program)
    (validation : Validation) (accepted : Program.read document = .accepted program)
    (validated : (checker.validate program).result = .ok validation)
    (valid : validation.valid = true) :
    (∀ ref, program.Uses ref ∨ program.Tests ref →
      ∃ decl, (Catalog.ofProgram program).resolve ref.path = .ok decl) ∧
    (∀ ref, program.Uses ref → ref.Honest (.ofProgram program)) ∧
    ((∀ ref, program.Uses ref ∨ program.Tests ref → ref.Honest (.ofProgram program)) ↔
      ∀ ref, program.Tests ref → ref.Honest (.ofProgram program)) := by
  have sound := Engine.passed_of_valid validated valid
  have filled := Program.not_vacant_of_read document program accepted
  -- An operand that is used goes through the check of units; a test of presence does not.
  have used : ∀ ref, program.Uses ref → ref.Honest (.ofProgram program) := by
    intro ref uses
    obtain ⟨expected, type, checked⟩ := uses.checked sound filled
    exact Catalog.honest_of_checkOperand checked
  refine ⟨?_, used, ?_⟩
  · rintro ref (uses | tests)
    · obtain ⟨expected, type, checked⟩ := uses.checked sound filled
      obtain ⟨decl, resolved, _⟩ := Catalog.resolve_of_checkOperand checked
      exact ⟨decl, resolved⟩
    · exact tests.declared sound
  · constructor
    · intro all ref tests
      exact all ref (.inr tests)
    · rintro tested ref (uses | tests)
      · exact used ref uses
      · exact tested ref tests

/-- A document about a weight in `kg`. Its rule first tests that there is a weight, in a unit of
its own, and then uses it in each other way. -/
def parcelDocument (unit : String) : Value :=
  let weight (unit : String) : Value :=
    .record [("kind", .text "fact"), ("path", .text "parcel.weight"), ("units", .text unit)]
  let five : Value := .record [("kind", .text "value"), ("value", .int 5), ("units", .text "kg")]
  .record
    [("entities", .list [.record [("name", .text "parcel"), ("fields", .list
        [.record [("name", .text "weight"), ("type", .text "number"), ("units", .text "kg")]])]]),
     ("rules", .list [.record [("id", .text "weigh"), ("name", .text "weigh"), ("when",
        .record [("kind", .text "all"), ("conditions", .list
          [.record [("kind", .text "exists"), ("fact", weight unit)],
           .record [("kind", .text "not"), ("condition",
             .record [("kind", .text "in"), ("value", weight "kg"), ("options", .list [five])])],
           .record [("kind", .text "compare"), ("lhs", five), ("operator", .text "equals"),
             ("rhs", weight "kg")]])]),
        ("then", .list [.record [("kind", .text "set"), ("target", .text "parcel.weight"),
          ("value", weight "kg")]])]])]

def parcelWeight (unit : String) : FactRef := ⟨"parcel.weight", some unit⟩

def parcelProgram (unit : String) : Program :=
  let five : Operand := .literal (.int 5) (some "kg")
  { Program.plain "parcel" []
      [.plain "weigh" 0
        (.all [.present (parcelWeight unit), .not (.oneOf (.fact (parcelWeight "kg")) [five]),
          .compare five .equals (.fact (parcelWeight "kg"))])
        [.set "parcel.weight" (.fact (parcelWeight "kg"))] []] with
    entities := [⟨"parcel", [⟨"weight", .number, some "kg", none⟩], none⟩] }

theorem parcelDocument_read (unit : String) :
    Program.read (parcelDocument unit) = .accepted (parcelProgram unit) := rfl

/-- The sample program is valid with the unit of its field and with the other. -/
theorem parcelProgram_valid {unit : String} (either : unit = "kg" ∨ unit = "lb") :
    ∃ validation, ((⟨.default, 1⟩ : Engine).validate (parcelProgram unit)).result =
      .ok validation ∧ validation.valid = true := by
  have validates : returnsWith (·.valid)
      ((⟨.default, 1⟩ : Engine).validate (parcelProgram unit)).result = true := by
    rcases either with rfl | rfl <;> decide +kernel
  exact eq_ok_of_returnsWith validates

theorem parcelProgram_tests (unit : String) : (parcelProgram unit).Tests (parcelWeight unit) :=
  ⟨_, List.mem_cons_self, .all List.mem_cons_self .here⟩

/-- With the unit of the field in its test as well, the program is honest throughout. -/
theorem parcel_units_honest :
    ∃ validation, Program.read (parcelDocument "kg") = .accepted (parcelProgram "kg") ∧
      ((⟨.default, 1⟩ : Engine).validate (parcelProgram "kg")).result = .ok validation ∧
      validation.valid = true ∧ (parcelProgram "kg").Uses (parcelWeight "kg") ∧
      ∀ ref, (parcelProgram "kg").Uses ref → ref.Honest (.ofProgram (parcelProgram "kg")) := by
  obtain ⟨validation, validated, valid⟩ := parcelProgram_valid (.inl rfl)
  have uses : (parcelProgram "kg").Uses (parcelWeight "kg") :=
    .action (List.mem_singleton_self _) (List.mem_cons_self ..) rfl
  exact ⟨validation, parcelDocument_read _, validated, valid, uses,
    (accepted_units_honest ⟨.default, 1⟩ _ _ validation (parcelDocument_read _) validated
      valid).2.1⟩

/-- The test is for a weight in another unit than the declared one, and the program is found
valid. -/
theorem parcel_tested_in_other_unit :
    ∃ validation, Program.read (parcelDocument "lb") = .accepted (parcelProgram "lb") ∧
      ((⟨.default, 1⟩ : Engine).validate (parcelProgram "lb")).result = .ok validation ∧
      validation.valid = true ∧ (parcelProgram "lb").Tests (parcelWeight "lb") ∧
      ¬ (parcelWeight "lb").Honest (.ofProgram (parcelProgram "lb")) := by
  obtain ⟨validation, validated, valid⟩ := parcelProgram_valid (.inr rfl)
  refine ⟨validation, parcelDocument_read _, validated, valid, parcelProgram_tests _, ?_⟩
  intro honest
  exact absurd (honest ⟨"weight", .number, some "kg", none⟩ "lb" "kg" rfl rfl rfl) (by decide)

end Rulebook
