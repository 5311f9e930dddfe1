import Rulebook.Proofs.Run.Declaration
import Rulebook.Proofs.Run.Interruption
import Rulebook.Proofs.Validate.Untold

/-!
The order of declarations and the verdict.

Of two declarations of one name the first or the last one counts, so which issues are found
depends on their order. But then the name is objected to as well, in whatever order
(`unobjected_duplicateIssues_iff`), and where no name is declared twice nothing depends on the
order. So the verdict does not either, as long as there is one: only where a name is declared twice
and some number is too long can a check come to an error that it cannot tell in one order alone
(`verdict_reordered`).
-/

namespace Rulebook

/-- The same program with everything that it declares in another order. -/
structure Program.Redeclared (p q : Program) : Prop where
  domain : p.domain = q.domain
  description : p.description = q.description
  entities : ReorderedEntities p.entities q.entities
  rules : p.rules.Perm q.rules
  constraints : p.constraints.Perm q.constraints
  examples : p.examples.Perm q.examples
  config : p.config = q.config

/-- No name is given twice in the program. -/
structure Program.DistinctlyNamed (program : Program) : Prop where
  entities : DistinctNames program.entities
  rules : (program.rules.map (·.id)).Nodup
  constraints : (program.constraints.map (·.id)).Nodup
  examples : (program.examples.map (·.id)).Nodup

/-! ### Declarations in another order -/

namespace Program.Redeclared

variable {p q : Program} (redeclared : p.Redeclared q)

include redeclared

theorem symm : q.Redeclared p where
  domain := redeclared.domain.symm
  description := redeclared.description.symm
  entities := redeclared.entities.symm
  rules := redeclared.rules.symm
  constraints := redeclared.constraints.symm
  examples := redeclared.examples.symm
  config := redeclared.config.symm

theorem distinctlyNamed (named : p.DistinctlyNamed) : q.DistinctlyNamed where
  entities := redeclared.entities.distinctNames named.entities
  rules := (redeclared.rules.map _).nodup_iff.mp named.rules
  constraints := (redeclared.constraints.map _).nodup_iff.mp named.constraints
  examples := (redeclared.examples.map _).nodup_iff.mp named.examples

end Program.Redeclared

/-! ### Duplicates -/

/-- Nothing is duplicated just when no name is repeated. -/
theorem duplicates_eq_nil_iff {names : List String} : duplicates names = [] ↔ names.Nodup := by
  rw [List.nodup_iff_count_le_one, List.eq_nil_iff_forall_not_mem]
  simp only [duplicates, mem_sortedDistinct, List.mem_filter, decide_eq_true_eq, not_and, not_lt]
  constructor
  · intro single name
    by_cases member : name ∈ names
    · exact single name member
    · rw [List.count_eq_zero_of_not_mem member]
      exact Nat.zero_le 1
  · intro single name _
    exact single name

/-- A name that is declared twice is objected to, in whatever order the declarations stand. -/
theorem unobjected_duplicateIssues_iff {program : Program} :
    Unobjected (duplicateIssues program) ↔ program.DistinctlyNamed := by
  have group : ∀ (label : String) (names : List String),
      Unobjected ((duplicates names).map (duplicateIssue label)) ↔ names.Nodup := by
    intro label names
    rw [← duplicates_eq_nil_iff]
    constructor
    · intro sound
      refine List.eq_nil_iff_forall_not_mem.mpr fun name member => ?_
      cases sound _ (List.mem_map_of_mem member)
    · intro none
      rw [none]
      exact nofun
  -- Duplicates are looked for in each group of names on its own.
  have groups : Unobjected (duplicateIssues program) ↔
      ∀ names ∈ nameGroups program, names.2.Nodup :=
    List.forall_mem_flatMap.trans (forall₂_congr fun names _ => group names.1 names.2)
  rw [groups]
  constructor
  · intro distinct
    simp only [nameGroups, List.forall_mem_append, List.forall_mem_cons, List.forall_mem_map]
      at distinct
    obtain ⟨⟨entities, rules, constraints, examples, _⟩, fields⟩ := distinct
    exact ⟨⟨entities, fields⟩, rules, constraints, examples⟩
  · intro named
    simp only [nameGroups, List.forall_mem_append, List.forall_mem_cons, List.forall_mem_map]
    exact ⟨⟨named.entities.entities, named.rules, named.constraints, named.examples, nofun⟩,
      named.entities.fields⟩

/-! ### Checks -/

namespace Catalog.ResolvesLike

variable {a b : Catalog} (alike : a.ResolvesLike b)

include alike

theorem checkAgreement_eq (x y : Operand) : a.checkAgreement x y = b.checkAgreement x y := by
  unfold checkAgreement
  split <;> simp only [checkFollows, alike.checkOperand_eq]

theorem checkUnitsAgainst_eq (operand against : Operand) :
    a.checkUnitsAgainst operand against = b.checkUnitsAgainst operand against := by
  cases against with
  | fact ref => simp only [checkUnitsAgainst, alike ref.path, alike.checkUnits_eq]
  | literal value units => rfl

theorem checkOperator_eq (lhs : Operand) (operator : Operator) (rhs : Operand)
    (left right : ScalarType) :
    a.checkOperator lhs operator rhs left right = b.checkOperator lhs operator rhs left right := by
  cases operator with
  | equals | notEquals => exact alike.checkAgreement_eq lhs rhs
  | contains => simp only [checkOperator, checkContains, alike.checkOperand_eq]
  | memberOf => simp only [checkOperator, checkMember, alike.checkOperand_eq]
  | greater | greaterOrEqual | less | lessOrEqual => rfl

theorem checkCompare_eq (lhs : Operand) (operator : Operator) (rhs : Operand) :
    a.checkCompare lhs operator rhs = b.checkCompare lhs operator rhs := by
  simp only [checkCompare, alike.checkOperand_eq, alike.checkOperator_eq,
    alike.checkUnitsAgainst_eq]

theorem checkOption_eq (value option : Operand) :
    a.checkOption value option = b.checkOption value option := by
  simp only [checkOption, alike.checkAgreement_eq, alike.checkUnitsAgainst_eq]

theorem checkAction_eq (action : Action) : a.checkAction action = b.checkAction action := by
  cases action with
  | set target value | append target value =>
      simp only [checkAction, checkWritten, alike target, alike.checkOperand_eq,
        alike.checkUnits_eq]
  | increment target delta => simp only [checkAction, alike.checkIncrement_eq]
  | emit event payload | route queue reason => rfl

end Catalog.ResolvesLike

section Checks

variable {a b : Catalog} {ruleIds : List String}

mutual

/-- Catalogs that resolve paths alike find the same issues in a condition. -/
theorem Condition.issues_eq_of_alike (alike : a.ResolvesLike b) : ∀ condition : Condition,
    condition.issues a ruleIds = condition.issues b ruleIds
  | .compare lhs operator rhs => by simp only [issues, alike.checkCompare_eq]
  | .present fact => by simp only [issues, Catalog.checkDeclared, alike fact.path]
  | .oneOf value options => by simp only [issues, alike.checkOption_eq]
  | .matching value _ _ => by simp only [issues, Catalog.checkText, alike.checkOperand_eq]
  | .all conditions | .any conditions => by
      rw [issues, issues, issuesOfEach_eq_of_alike alike conditions]
  | .not condition => issues_eq_of_alike alike condition

theorem Condition.issuesOfEach_eq_of_alike (alike : a.ResolvesLike b) :
    ∀ conditions : List Condition,
      issuesOfEach a ruleIds conditions = issuesOfEach b ruleIds conditions
  | [] => rfl
  | condition :: rest => by
      rw [issuesOfEach, issuesOfEach, issues_eq_of_alike alike condition,
        issuesOfEach_eq_of_alike alike rest]

end

/-- Catalogs that resolve alike make the same checks of a condition, -/
theorem Condition.checks_eq_of_alike (alike : a.ResolvesLike b) (condition : Condition) :
    condition.checks a = condition.checks b := by
  cases condition with
  | compare lhs operator rhs => simp only [checks, alike.checkCompare_eq]
  | present fact => simp only [checks, Catalog.checkDeclared, alike fact.path]
  | oneOf value options =>
      exact List.map_congr_left fun option _ => alike.checkOption_eq value option
  | matching value pattern ignoreCase =>
      simp only [checks, Catalog.checkText, alike.checkOperand_eq]
  | all conditions | any conditions | not condition => rfl

/-- and find the same issues of a rule. -/
theorem Rule.issues_eq_of_alike (alike : a.ResolvesLike b) (rule : Rule) :
    rule.issues a = rule.issues b := by
  simp only [issues, Condition.issues_eq_of_alike alike, alike.checkAction_eq]

end Checks

/-- How a program is worded is never a hard issue. -/
theorem unobjected_wordingIssues (program : Program) : Unobjected (wordingIssues program) := by
  have soft : ∀ owner ruleIds text, Unobjected (wordingIssuesOf owner ruleIds text) := by
    intro owner ruleIds text issue member
    obtain ⟨term, _, rfl⟩ := List.mem_map.mp member
    rfl
  refine unobjected_append.mpr ⟨List.forall_mem_flatMap.mpr fun rule _ => ?_, ?_⟩
  · exact List.forall_mem_flatMap.mpr fun text _ => soft _ _ text
  · exact List.forall_mem_flatMap.mpr fun constraint _ => soft _ _ _

/-- Nothing that is found without the examples is hard where no name is given twice, the rules and
the constraints pass their checks, and no two rules clash. -/
theorem passed_foundIssues_iff {program : Program} :
    Passed (foundIssues program) ↔ program.DistinctlyNamed ∧
      (∀ rule ∈ program.rules, Passed (rule.issues (.ofProgram program))) ∧
      (∀ constraint ∈ program.constraints,
        Passed (constraint.assertion.issues (.ofProgram program) [])) ∧
      clashesHaveText program.rules = true ∧ Unobjected (clashIssues program.rules) := by
  have split : Passed (foundIssues program) ↔ Passed (declarationIssues program) ∧
      clashesHaveText program.rules = true ∧ Unobjected (clashIssues program.rules) := by
    simp only [Passed, foundIssues_eq_ok_iff]
    constructor
    · rintro ⟨_, ⟨declared, made, told, rfl⟩, sound⟩
      rw [unobjected_append, unobjected_append] at sound
      exact ⟨⟨declared, made, sound.1.1⟩, told, sound.1.2⟩
    · rintro ⟨⟨declared, made, sound⟩, told, apart⟩
      refine ⟨_, ⟨declared, made, told, rfl⟩, ?_⟩
      rw [unobjected_append, unobjected_append]
      exact ⟨⟨sound, apart⟩, unobjected_wordingIssues program⟩
  rw [split, declarationIssues, passed_gather_iff]
  simp only [List.forall_mem_append, List.forall_mem_cons, List.forall_mem_map, passed_ok_iff,
    unobjected_duplicateIssues_iff, and_assoc]

namespace Program.Redeclared

variable {p q : Program} (redeclared : p.Redeclared q)

include redeclared

theorem conditions : p.conditions.Perm q.conditions :=
  (redeclared.rules.map _).append (redeclared.constraints.map _)

theorem nameable (nameable : p.Nameable) : q.Nameable where
  operands condition member :=
    nameable.operands condition (redeclared.conditions.mem_iff.mpr member)
  written rule member := nameable.written rule (redeclared.rules.mem_iff.mpr member)
  priorities rule member := nameable.priorities rule (redeclared.rules.mem_iff.mpr member)

theorem resolvesLike (named : p.DistinctlyNamed) :
    (Catalog.ofProgram p).ResolvesLike (.ofProgram q) :=
  Catalog.resolvesLike_of_reordered named.entities redeclared.entities

/-- Where no name is declared twice, the same checks are untold in any order. -/
theorem untold (named : p.DistinctlyNamed) (untold : p.Untold) : q.Untold := by
  have alike := redeclared.resolvesLike named
  cases untold with
  | @condition condition part declared within untold =>
      rw [part.checks_eq_of_alike alike] at untold
      exact .condition (redeclared.conditions.mem_iff.mp declared) within untold
  | @action rule action declared among untold =>
      rw [alike.checkAction_eq] at untold
      exact .action (redeclared.rules.mem_iff.mp declared) among untold
  | clash untold =>
      rw [clashesHaveText_eq_of_perm named.rules redeclared.rules] at untold
      exact .clash untold

/-- Where no name is declared twice, what is accepted is accepted in any order. -/
theorem passed (sound : Passed (foundIssues p)) : Passed (foundIssues q) := by
  rw [passed_foundIssues_iff] at sound ⊢
  obtain ⟨named, rules, constraints, told, clashes⟩ := sound
  have alike := redeclared.resolvesLike named
  refine ⟨redeclared.distinctlyNamed named, ?_, ?_, ?_, ?_⟩
  · intro rule member
    rw [← rule.issues_eq_of_alike alike]
    exact rules rule (redeclared.rules.mem_iff.mpr member)
  · intro constraint member
    rw [← constraint.assertion.issues_eq_of_alike alike]
    exact constraints constraint (redeclared.constraints.mem_iff.mpr member)
  · rwa [← clashesHaveText_eq_of_perm named.rules redeclared.rules]
  · rwa [← clashIssues_eq_of_perm named.rules redeclared.rules]

/-- Whether anything hard is found does not depend on the order. -/
theorem passed_iff : Passed (foundIssues p) ↔ Passed (foundIssues q) :=
  ⟨redeclared.passed, redeclared.symm.passed⟩

end Program.Redeclared

/-! ### Examples -/

namespace Engine

variable {engine : Engine} {p q : Program}

section Redeclared

variable (redeclared : p.Redeclared q) (named : p.DistinctlyNamed)

include redeclared named

/-- A run looks at no constraints and no examples. -/
theorem execute_redeclared (store : Store) (options : ExecutionOptions) :
    engine.execute p store options = engine.execute q store options := by
  have reordered : p.Reordered { q with constraints := p.constraints, examples := p.examples } :=
    { redeclared with constraints := rfl, examples := rfl }
  exact execute_reordered reordered named.entities named.rules store options

/-- Runs return alike: they resolve the same paths and take the rules in one order. -/
theorem runWith_returns_redeclared {payload : Value} {options : ExecutionOptions}
    {tests : Recorded Interruption (Option (List ExampleResult))}
    (returns : ∃ result, (engine.runWith p payload options tests).result = .ok result) :
    ∃ result, (engine.runWith q payload options tests).result = .ok result := by
  obtain ⟨result, returned⟩ := returns
  obtain ⟨start, execution, report, testReport, taken, executed, checked, tested, _⟩ :=
    runWith_eq_ok_iff.mp returned
  rw [execute_redeclared redeclared named] at executed
  obtain ⟨report', checked'⟩ : ∃ report',
      checkConstraints execution.progress.workspace.store q.constraints = .ok report' := by
    refine returns_iff.mpr fun failed => ?_
    obtain ⟨constraint, member, trips⟩ := checkConstraints_fails_iff.mp failed
    exact returns_iff.mp ⟨report, checked⟩ (checkConstraints_fails_iff.mpr
      ⟨constraint, redeclared.constraints.mem_iff.mpr member, trips⟩)
  exact ⟨_, runWith_eq_ok_iff.mpr
    ⟨start, execution, report', testReport, taken, executed, checked', tested, rfl⟩⟩

/-- So examples fail alike. -/
theorem runExample_fails_redeclared {options : ExecutionOptions} {ex : Example} :
    Fails (engine.runExample p options ex).result ↔
      Fails (engine.runExample q options ex).result := by
  rw [runExample_fails_iff_runWith, runExample_fails_iff_runWith, ← not_iff_not, ← returns_iff,
    ← returns_iff]
  exact ⟨runWith_returns_redeclared redeclared named,
    runWith_returns_redeclared redeclared.symm (redeclared.distinctlyNamed named)⟩

end Redeclared

/-- The coverage of a program has no result where the run of an example has none. -/
theorem assessCoverage_fails_iff {program : Program} {options : ExecutionOptions} :
    Fails (engine.assessCoverage program options).result ↔
      ∃ ex ∈ program.examples, Fails (engine.runExample program options ex).result := by
  rw [← runEach_fails_iff_exists]
  unfold assessCoverage
  split
  · rename_i empty
    simp [List.isEmpty_iff.mp empty, runEach]
  · simp [runExamples, fails_bind]

/-- There is no verdict where a check is untold, or where the examples are run and one of them
fails. -/
theorem validate_fails_iff {program : Program} :
    Fails (engine.validate program).result ↔ program.Untold ∨
      Passed (foundIssues program) ∧ ∃ ex ∈ program.examples,
        Fails (engine.runExample program (.default engine.settings) ex).result := by
  have untold : program.Untold ↔ Fails (foundIssues program) := by
    rw [← not_iff_not, ← foundIssues_returns_iff, returns_iff]
  rw [validate_result, untold, ← assessCoverage_fails_iff]
  cases foundIssues program with
  | error e => simp [Except.bind, Passed]
  | ok issues =>
      simp only [Except.bind, not_fails_ok, false_or, passed_ok_iff, unobjected_iff_any]
      split
      · rename_i hard
        simp [hard]
      · rename_i soft
        rw [fails_map, Bool.eq_false_iff]
        exact (and_iff_right soft).symm

/-- Two programs have one verdict: either both have none, or the one is as valid as the other. -/
def SameVerdict (engine : Engine) (p q : Program) : Prop :=
  (Fails (engine.validate p).result ∧ Fails (engine.validate q).result) ∨
    ∃ validation validation', (engine.validate p).result = .ok validation ∧
      (engine.validate q).result = .ok validation' ∧ validation.valid = validation'.valid

theorem SameVerdict.fails (same : engine.SameVerdict p q)
    (failed : Fails (engine.validate p).result) : Fails (engine.validate q).result := by
  rcases same with ⟨_, failed'⟩ | ⟨validation, _, validated, _⟩
  · exact failed'
  · exact absurd failed (returns_iff.mp ⟨validation, validated⟩)

theorem SameVerdict.symm (same : engine.SameVerdict p q) : engine.SameVerdict q p := by
  rcases same with ⟨failed, failed'⟩ | ⟨validation, validation', validated, validated', valid⟩
  · exact .inl ⟨failed', failed⟩
  · exact .inr ⟨validation', validation, validated', validated, valid.symm⟩

/-- A program that is untold in one order has a verdict in another one only where a name is given
twice, since otherwise it would be untold there as well. -/
theorem SameVerdict.untold (redeclared : p.Redeclared q) (same : engine.SameVerdict p q)
    (untold : p.Untold) : q.Untold := by
  rcases validate_fails_iff.mp (same.fails (validate_fails_iff.mpr (.inl untold))) with
    untold' | ⟨sound, _⟩
  · exact untold'
  · exact redeclared.untold (passed_foundIssues_iff.mp (redeclared.passed_iff.mpr sound)).1 untold

/-- Where all that is found can be told, the verdict is the same. -/
theorem sameVerdict_of_told (redeclared : p.Redeclared q) (told : ¬ p.Untold)
    (told' : ¬ q.Untold) : engine.SameVerdict p q := by
  have fails : Fails (engine.validate p).result ↔ Fails (engine.validate q).result := by
    rw [validate_fails_iff, validate_fails_iff, redeclared.passed_iff, or_iff_right told,
      or_iff_right told']
    refine and_congr_right fun sound => ?_
    -- the examples are run only where no name is given twice
    have named := (passed_foundIssues_iff.mp (redeclared.passed_iff.mpr sound)).1
    simp only [runExample_fails_redeclared redeclared named, redeclared.examples.mem_iff]
  by_cases failed : Fails (engine.validate p).result
  · exact .inl ⟨failed, fails.mp failed⟩
  · obtain ⟨validation, validated⟩ := returns_iff.mpr failed
    obtain ⟨validation', validated'⟩ := returns_iff.mpr (mt fails.mpr failed)
    refine .inr ⟨validation, validation', validated, validated', ?_⟩
    rw [Bool.eq_iff_iff, valid_iff validated, valid_iff validated']
    exact redeclared.passed_iff

end Engine

/-- The verdict does not depend on the order in which a program declares its entities, their
fields, its rules, its constraints and its examples, whether or not some names are declared
twice, unless in one of the orders alone a check comes to an error that cannot be put into words.
That does not happen where no name is declared twice, nor where no number is too long. -/
theorem verdict_reordered (engine : Engine) (p q : Program) (redeclared : p.Redeclared q) :
    (engine.SameVerdict p q ↔ (p.Untold ↔ q.Untold)) ∧
      (p.DistinctlyNamed ∨ p.Nameable → engine.SameVerdict p q) := by
  have exact : engine.SameVerdict p q ↔ (p.Untold ↔ q.Untold) := by
    constructor
    · exact fun same => ⟨same.untold redeclared, same.symm.untold redeclared.symm⟩
    · intro alike
      by_cases untold : p.Untold
      · exact .inl ⟨Engine.validate_fails_iff.mpr (.inl untold),
          Engine.validate_fails_iff.mpr (.inl (alike.mp untold))⟩
      · exact Engine.sameVerdict_of_told redeclared untold (mt alike.mpr untold)
  refine ⟨exact, ?_⟩
  rintro (named | nameable)
  · exact exact.mpr ⟨redeclared.untold named,
      redeclared.symm.untold (redeclared.distinctlyNamed named)⟩
  · exact exact.mpr (iff_of_false nameable.not_untold (redeclared.nameable nameable).not_untold)

/-- A size that is declared twice, as a number and as a text, and two constraints of one id. -/
def forkedProgram : Program :=
  { Program.plain "box" [("size", .number), ("size", .string)] [] with
    constraints :=
      [⟨"fits", "The box has a size.", .present ⟨"box.size", none⟩, .error⟩,
        ⟨"fits", "The box is big.",
          .compare (.fact ⟨"box.size", none⟩) .greater (.literal (.int 3) none), .error⟩] }

/-- The same with the sizes and the constraints the other way round. -/
def swappedProgram : Program :=
  { forkedProgram with
    entities := [⟨"box", [⟨"size", .string, none, none⟩, ⟨"size", .number, none, none⟩], none⟩]
    constraints := forkedProgram.constraints.reverse }

/-- The sample program has no literal that could not be written. -/
theorem forkedProgram_nameable : forkedProgram.Nameable where
  operands condition member part within operand among := by
    simp only [Program.conditions, forkedProgram, Program.plain, List.map_nil, List.map_cons,
      List.nil_append, List.mem_cons, List.not_mem_nil, or_false] at member
    rcases member with rfl | rfl
    · cases within
      cases among
    · cases within
      simp only [Condition.operands, List.mem_cons, List.not_mem_nil, or_false] at among
      rcases among with rfl | rfl <;> decide
  written rule member := by cases member
  priorities rule member := by cases member

/-- Where the size is a text first, its comparison is objected to besides the two names that are
given twice. The verdict is the same. -/
theorem fork_verdict_reordered :
    forkedProgram.Redeclared swappedProgram ∧ forkedProgram.Nameable ∧
      ∃ validation validation',
        ((⟨.default, 1⟩ : Engine).validate forkedProgram).result = .ok validation ∧
          ((⟨.default, 1⟩ : Engine).validate swappedProgram).result = .ok validation' ∧
          validation.errors.length = 2 ∧ validation'.errors.length = 3 ∧
          validation.valid = validation'.valid := by
  have redeclared : forkedProgram.Redeclared swappedProgram :=
    { domain := rfl
      description := rfl
      entities := ⟨_, .refl _, .cons ⟨rfl, rfl, .swap _ _ _⟩ .nil⟩
      rules := .refl _
      constraints := (List.reverse_perm _).symm
      examples := .refl _
      config := rfl }
  have finds : returnsWith (fun validation => decide (validation.errors.length = 2))
      ((⟨.default, 1⟩ : Engine).validate forkedProgram).result = true := by decide +kernel
  have finds' : returnsWith (fun validation => decide (validation.errors.length = 3))
      ((⟨.default, 1⟩ : Engine).validate swappedProgram).result = true := by decide +kernel
  obtain ⟨found, validated, errors⟩ := eq_ok_of_returnsWith finds
  obtain ⟨found', validated', errors'⟩ := eq_ok_of_returnsWith finds'
  rcases (verdict_reordered ⟨.default, 1⟩ forkedProgram swappedProgram redeclared).2
      (.inr forkedProgram_nameable) with
    ⟨failed, _⟩ | ⟨validation, validation', made, made', same⟩
  · exact absurd failed (returns_iff.mp ⟨found, validated⟩)
  · cases validated.symm.trans made
    cases validated'.symm.trans made'
    exact ⟨redeclared, forkedProgram_nameable, _, _, made, made', of_decide_eq_true errors,
      of_decide_eq_true errors', same⟩

/-- A size that is declared twice, as a number and as a text, and compared with a long number. -/
def overfullProgram : Program :=
  { Program.plain "box" [("size", .number), ("size", .string)] [] with
    constraints := [⟨"full", "The box is full.",
      .compare (.fact ⟨"box.size", none⟩) .equals (.literal .long none), .error⟩] }

def swappedOverfull : Program :=
  { overfullProgram with
    entities := [⟨"box", [⟨"size", .string, none, none⟩, ⟨"size", .number, none, none⟩], none⟩] }

/-- Where the size is a number first, the program is found to be invalid. Where it is a text first,
it is to be said that the long number is none, and there is no verdict. -/
theorem overfull_verdict_differs :
    overfullProgram.Redeclared swappedOverfull ∧
      (∃ validation, ((⟨.default, 1⟩ : Engine).validate overfullProgram).result = .ok validation ∧
        validation.valid = false) ∧
      ((⟨.default, 1⟩ : Engine).validate swappedOverfull).result = .error .tooManyDigits := by
  refine ⟨?_, ?_, ?_⟩
  · exact
      { domain := rfl
        description := rfl
        entities := ⟨_, .refl _, .cons ⟨rfl, rfl, .swap _ _ _⟩ .nil⟩
        rules := .refl _
        constraints := .refl _
        examples := .refl _
        config := rfl }
  · obtain ⟨validation, validated, invalid⟩ := eq_ok_of_returnsWith
      (by decide +kernel : returnsWith (fun validation => decide (validation.valid = false))
        ((⟨.default, 1⟩ : Engine).validate overfullProgram).result = true)
    exact ⟨validation, validated, of_decide_eq_true invalid⟩
  · apply eq_error_of_endsWith
    decide +kernel

end Rulebook
