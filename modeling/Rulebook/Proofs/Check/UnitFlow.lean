import Rulebook.Proofs.Check.Agreement
import Rulebook.Proofs.Check.UnitVerdict
import Rulebook.Proofs.Run.Plain
import Rulebook.Proofs.Validate.Operands

/-!
Values on their way into fields with units.

Two checks stand before a write: the unit that a fact is used with has to be the one of its own
field, and the unit that counts has to be the one of the written field. Neither is enough alone. A
fact that names the unit of the target passes the second one whatever its field declares, and a
fact that names none passes the first one. Together they let no value go from one unit into another
one (`units_never_mixed`); what they do let go is a value that has no unit, and then they say so.
-/

namespace Rulebook

namespace Operand

variable {catalog : Catalog} {operand : Operand} {unit : String} {issues : List Issue}

/-- What holds of an operand whose value goes where a unit is declared: it has no unit and the
issues say that one is missing, or it has this unit. A fact from a field with a unit comes from a
field with this one, whatever unit it is used with. -/
structure SuitsUnit (catalog : Catalog) (operand : Operand) (unit : String)
    (issues : List Issue) : Prop where
  told : (operand.effectiveUnit? catalog = none ∧ ∃ issue ∈ issues, issue.kind = .unitMissing) ∨
    operand.effectiveUnit? catalog = some unit
  source : ∀ (ref : FactRef) (decl : FieldDecl) (own : String), operand = .fact ref →
    catalog.resolve ref.path = .ok decl → nonEmpty? decl.units = some own → own = unit

/-- Issues of the same kinds say the same. -/
theorem SuitsUnit.of_kinds {others : List Issue} (suits : operand.SuitsUnit catalog unit issues)
    (kinds : ∀ issue ∈ issues, ∃ other ∈ others, other.kind = issue.kind) :
    operand.SuitsUnit catalog unit others where
  told := by
    rcases suits.told with ⟨missing, issue, member, kind⟩ | same
    · obtain ⟨other, among, alike⟩ := kinds issue member
      exact .inl ⟨missing, other, among, alike.trans kind⟩
    · exact .inr same
  source := suits.source

/-- An operand that fits a type leads somewhere. -/
theorem Fits.resolves {type : ScalarType} (fits : operand.Fits catalog type) :
    operand.Resolves catalog := by
  intro path named
  cases fits with
  | fact resolved _ =>
      cases named
      exact ⟨_, resolved⟩
  | literal => cases named
  | date => cases named

/-- The unit that counts for an honest fact is the one of its field, where that has one. -/
theorem effectiveUnit?_of_honest {ref : FactRef} {decl : FieldDecl} {own : String}
    (honest : ref.Honest catalog) (resolved : catalog.resolve ref.path = .ok decl)
    (declares : nonEmpty? decl.units = some own) :
    (Operand.fact ref).effectiveUnit? catalog = some own := by
  have declared : nonEmpty? ((Operand.fact ref).declaredUnits? catalog) = some own := by
    simp [declaredUnits?, resolved, Except.toOption, declares]
  rw [effectiveUnit?, declared]
  cases used : nonEmpty? (Operand.fact ref).units with
  | none => rfl
  | some other => exact congrArg some (honest decl other own resolved used declares)

end Operand

section Checks

variable {catalog : Catalog} {action : Action} {target : String} {operand : Operand}
  {decl : FieldDecl} {unit : String} {found : Option Issue}

/-- An operand that passes the check of units against a field with a unit has this unit, or has
none and is found to have none. -/
theorem Catalog.told_of_checkUnits {path : Option String} {type : ScalarType}
    (fits : operand.Fits catalog type) (measured : nonEmpty? decl.units = some unit)
    (checked : catalog.checkUnits operand decl path = .ok found) :
    (operand.effectiveUnit? catalog = none ∧
        ∃ issue ∈ found.toList, issue.kind = .unitMissing) ∨
      operand.effectiveUnit? catalog = some unit := by
  -- A blank unit on the field of the fact is an error, so it is not the case here.
  have unblank : ¬ operand.DeclaredBlank catalog := by
    intro blank
    rw [checkUnits_of_declaredBlank path fits.resolves blank measured] at checked
    cases checked
  have tells := (Operand.operandUnit_eq_effectiveUnit?_iff fits.resolves).mpr unblank
  cases counts : operand.effectiveUnit? catalog with
  | none =>
      rw [checkUnits_of_missing path measured (counts ▸ tells)] at checked
      split at checked
      · cases checked
        exact .inl ⟨rfl, _, List.mem_singleton_self _, rfl⟩
      · cases checked
  | some own =>
      rw [checkUnits_of_told path measured (counts ▸ tells)] at checked
      by_cases same : own = unit
      · exact .inr (congrArg some same)
      · rw [if_neg same] at checked
        cases checked

/-- What passes both checks suits the unit of the target. -/
theorem Plan.suitsUnit_of_checkWrite (checked : checkWrite catalog target operand = .ok found)
    (declared : catalog.resolve target = .ok decl) (measured : nonEmpty? decl.units = some unit) :
    operand.SuitsUnit catalog unit found.toList := by
  obtain ⟨field, resolved, checked⟩ := CheckFailure.lift_bind_eq_ok_iff.mp checked
  cases declared.symm.trans resolved
  obtain ⟨type, typed, units⟩ := Except.bind_eq_ok_iff.mp checked
  have told := Catalog.told_of_checkUnits (Catalog.checkOperand_eq_ok_iff.mp typed).2 measured units
  refine ⟨told, ?_⟩
  rintro ref source own rfl sourceResolved declares
  have counts := Operand.effectiveUnit?_of_honest (Catalog.honest_of_checkOperand typed)
    sourceResolved declares
  rcases told with ⟨missing, _⟩ | same
  · cases missing.symm.trans counts
  · exact Option.some.inj (counts.symm.trans same)

/-- An action that writes the value of an operand is checked for target and operand. -/
theorem Action.inlineCheck_eq (goal : action.target? = some target)
    (written : action.operand? = some operand) :
    action.inlineCheck catalog = Plan.checkWrite catalog target operand := by
  cases action with
  | set target value | append target value =>
      cases goal
      cases written
      rfl
  | increment target delta => cases written
  | emit event payload => cases written
  | route queue reason => cases written

/-- What a check has found is of the same kind when it is told on behalf of rules. -/
theorem forRules_kinds (ruleIds : List String) :
    ∀ issue ∈ found.toList, ∃ other ∈ (found.map (·.forRules ruleIds)).toList,
      other.kind = issue.kind := by
  intro issue member
  cases Option.mem_toList.mp member
  exact ⟨issue.forRules ruleIds, by simp, issue.forRules_kind ruleIds⟩

end Checks

/-- A set or append action that is not refused brings no value into a field with a unit but one
that has this unit, or that has none and is reported for it, and none at all from a field with
another unit, whatever unit the action says that it has. The check before a run passes such an
action under the same condition only, and a program that has it is found valid under the same
condition only. -/
theorem units_never_mixed (catalog : Catalog) (action : Action) (target : String)
    (operand : Operand) (decl : FieldDecl) (unit : String) (goal : action.target? = some target)
    (written : action.operand? = some operand) (declared : catalog.resolve target = .ok decl)
    (measured : nonEmpty? decl.units = some unit) :
    (∀ (live : Bool) (workspace next : Workspace) (now : Writer) (outcome : ActionOutcome),
      action.apply catalog live workspace now = .ok (outcome, next) → outcome.refused = false →
        operand.SuitsUnit catalog unit outcome.issues) ∧
    (∀ (ruleIds : List String) (issues : List Issue),
      issuesOf ruleIds (catalog.checkAction action) = .ok issues → Unobjected issues →
        operand.SuitsUnit catalog unit issues) ∧
    ∀ (engine : Engine) (program : Program) (rule : Rule) (validation : Validation),
      catalog = .ofProgram program → rule ∈ program.rules → action ∈ rule.actions →
      (engine.validate program).result = .ok validation → validation.valid = true →
        operand.SuitsUnit catalog unit validation.warnings := by
  have suits : ∀ found, action.inlineCheck catalog = .ok found →
      operand.SuitsUnit catalog unit found.toList := by
    intro found checked
    rw [Action.inlineCheck_eq goal written] at checked
    exact Plan.suitsUnit_of_checkWrite checked declared measured
  have told : ∀ (ruleIds : List String) (issues : List Issue),
      issuesOf ruleIds (catalog.checkAction action) = .ok issues → Unobjected issues →
        operand.SuitsUnit catalog unit issues := by
    intro ruleIds issues made sound
    obtain ⟨found, checked⟩ := ok_of_passed ⟨issues, made, sound⟩
    rw [checked] at made
    cases made
    exact (suits found (Catalog.checkAction_eq_ok_iff.mp checked)).of_kinds (forRules_kinds ruleIds)
  refine ⟨?_, told, ?_⟩
  · intro live workspace next now outcome applied accepted
    cases Action.apply_eq_ok_iff.mp applied with
    | refused planned => cases accepted
    | event planned =>
        cases Planned.of_eq planned with
        | event => cases goal
    | route planned =>
        cases Planned.of_eq planned with
        | route => cases goal
    | field planned split =>
        obtain ⟨found, checked, rfl⟩ := (Writes.of_planned planned).inlineCheck_found
        refine (suits found checked).of_kinds fun issue member => ?_
        obtain ⟨other, among, kind⟩ := forRules_kinds [now.ruleId] issue member
        exact ⟨other, List.mem_append_left _ among, kind⟩
  · -- What the single check finds is among the issues of the validation.
    rintro engine program rule validation rfl member among validated valid
    obtain ⟨issues, made, warned⟩ := Engine.warnings_eq_of_valid validated valid
    obtain ⟨part, checked, inside⟩ := mem_foundIssues_of_action made member among
    have sound := passed_gather_iff.mp
      (passed_rule (Engine.passed_of_valid validated valid) member) _
      (List.mem_cons_of_mem _ (List.mem_map_of_mem among))
    rw [checked, passed_ok_iff] at sound
    refine (told [rule.id] part checked sound).of_kinds fun issue within => ⟨issue, ?_, rfl⟩
    rw [warned]
    exact List.mem_append_left _ (inside issue within)

/-- A wagon with its load and its limit in tons, its length in metres and a count without a unit,
which is appended to the load. -/
def wagonProgram : Program :=
  { Program.plain "wagon" []
      [.plain "fill" 0 (.present ⟨"wagon.count", none⟩)
        [.append "wagon.load" (.fact ⟨"wagon.count", none⟩)] []] with
    entities :=
      [⟨"wagon", [⟨"load", .number, some "t", none⟩, ⟨"limit", .number, some "t", none⟩,
        ⟨"length", .number, some "m", none⟩, ⟨"count", .number, none, none⟩], none⟩] }

def wagonCatalog : Catalog := .ofProgram wagonProgram

def wagonWorkspace : Workspace :=
  ⟨⟨[("wagon", .record [("limit", .int 40), ("length", .int 15)])]⟩, .empty⟩

/-- The load may be set to the limit, and the program may count without a unit, but is warned. -/
theorem wagon_load_measured :
    (∃ outcome next, (Action.set "wagon.load" (.fact ⟨"wagon.limit", some "t"⟩)).apply wagonCatalog
        true wagonWorkspace ⟨"fill", "act-1"⟩ = .ok (outcome, next) ∧
      outcome.refused = false ∧ outcome.issues = [] ∧
      (Operand.fact ⟨"wagon.limit", some "t"⟩).SuitsUnit wagonCatalog "t" outcome.issues) ∧
    ∃ validation, ((⟨.default, 1⟩ : Engine).validate wagonProgram).result = .ok validation ∧
      validation.valid = true ∧
      (Operand.fact ⟨"wagon.count", none⟩).SuitsUnit wagonCatalog "t" validation.warnings := by
  obtain ⟨limited, _⟩ := units_never_mixed wagonCatalog
    (.set "wagon.load" (.fact ⟨"wagon.limit", some "t"⟩)) _ _ _ "t" rfl rfl rfl rfl
  obtain ⟨_, _, counted⟩ := units_never_mixed wagonCatalog
    (.append "wagon.load" (.fact ⟨"wagon.count", none⟩)) _ _ _ "t" rfl rfl rfl rfl
  have validates : returnsWith (·.valid)
      ((⟨.default, 1⟩ : Engine).validate wagonProgram).result = true := by decide +kernel
  obtain ⟨validation, validated, valid⟩ := eq_ok_of_returnsWith validates
  exact ⟨⟨_, _, rfl, rfl, rfl, limited true wagonWorkspace _ ⟨"fill", "act-1"⟩ _ rfl rfl⟩,
    validation, validated, valid, counted _ wagonProgram _ validation rfl
      (List.mem_singleton_self _) (List.mem_singleton_self _) validated valid⟩

/-- A length is not made a load by saying that it is in tons. -/
example : ∃ outcome next, (Action.set "wagon.load" (.fact ⟨"wagon.length", some "t"⟩)).apply
    wagonCatalog true wagonWorkspace ⟨"fill", "act-1"⟩ = .ok (outcome, next) ∧
      outcome.refused = true := ⟨_, _, rfl, rfl⟩

end Rulebook
