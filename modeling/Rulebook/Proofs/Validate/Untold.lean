import Rulebook.Proofs.Validate.Operands

/-!
Where validation has no outcome.

An error that names a literal with too many digits cannot be put into words, so the check that comes
to it ends without one, and with it the whole validation. `Program.Untold` says of a program that
this happens in some part of it: the checks that do not need the examples are all made exactly where
it does not (`foundIssues_returns_iff`). It takes a literal that is too long, or a priority, and a
program that has none is never untold (`Program.Nameable.not_untold`).
-/

namespace Rulebook

/-- The checks that a condition gives rise to itself, those of its parts apart. -/
def Condition.checks (catalog : Catalog) : Condition → List (Except CheckFailure (Option Issue))
  | .compare lhs operator rhs => [catalog.checkCompare lhs operator rhs]
  | .present fact => [catalog.checkDeclared fact.path]
  | .oneOf value options => options.map (catalog.checkOption value)
  | .matching value _ _ => [catalog.checkText value]
  | .all _ | .any _ | .not _ => []

/-- Some check of the program comes to an error that cannot be put into words. -/
inductive Program.Untold (program : Program) : Prop where
  | condition {condition part : Condition} :
      condition ∈ program.conditions → part.Within condition →
      .error .tooManyDigits ∈ part.checks (.ofProgram program) → Untold program
  | action {rule : Rule} {action : Action} :
      rule ∈ program.rules → action ∈ rule.actions →
      (Catalog.ofProgram program).checkAction action = .error .tooManyDigits → Untold program
  | clash : clashesHaveText program.rules = false → Untold program

/-- Whatever the checks of the program may have to name has a text: the literals of its conditions
and its actions, and the priorities of its rules. -/
structure Program.Nameable (program : Program) : Prop where
  operands : ∀ condition ∈ program.conditions, ∀ part : Condition, part.Within condition →
    ∀ operand ∈ part.operands, operand.hasText = true
  written : ∀ rule ∈ program.rules, ∀ action ∈ rule.actions, ∀ value,
    action.operand? = some value → value.hasText = true
  priorities : ∀ rule ∈ program.rules, intHasText rule.priority = true

/-! ### The cause -/

/-- There is an outcome of the check, unless one of the operands has no text. -/
def ToldWith {α : Type} (operands : List Operand) (check : Except CheckFailure α) : Prop :=
  check = .error .tooManyDigits → ∃ operand ∈ operands, operand.hasText = false

namespace ToldWith

variable {α β : Type} {operands : List Operand} {check : Except CheckFailure α}

theorem ok {a : α} : ToldWith operands (.ok a) := nofun

theorem reported {e : CheckError} : ToldWith operands (.error (.reported e) : Except _ α) := nofun

theorem lift {check : Except CheckError α} : ToldWith operands (liftM check) :=
  fun untold => by simp [CheckFailure.liftM_eq_error_iff] at untold

/-- Checks in sequence name what each of them does. -/
theorem bind {next : α → Except CheckFailure β} (first : ToldWith operands check)
    (later : ∀ a, ToldWith operands (next a)) : ToldWith operands (check >>= next) := by
  cases check with
  | error failure => exact fun untold => first (congrArg _ (Except.error.inj untold))
  | ok a => exact later a

theorem mono {others : List Operand} (told : ToldWith operands check)
    (among : ∀ operand ∈ operands, operand ∈ others) : ToldWith others check := by
  intro untold
  obtain ⟨operand, member, unnamed⟩ := told untold
  exact ⟨operand, among operand member, unnamed⟩

theorem onWrite {verb target : String} (told : ToldWith operands check) :
    ToldWith operands (check.mapError (.onWrite verb target)) := by
  rcases check with (e | _) | a
  · exact .reported
  · exact fun _ => told rfl
  · exact .ok

end ToldWith

namespace Catalog

variable {catalog : Catalog} {a b operand : Operand}

/-- A single operand is the one it may have to name, -/
theorem toldWith_checkOperand (expected : Option ScalarType) :
    ToldWith [operand] (catalog.checkOperand operand expected) := by
  intro untold
  cases expected with
  | none =>
      rw [tooManyDigits_iff, checkOperand_none_reported_iff, checkOperand_returns_iff] at untold
      exact absurd untold.2 untold.1
  | some type =>
      exact ⟨operand, List.mem_singleton_self _, (checkOperand_tooManyDigits_iff.mp untold).1⟩

/-- and the unit check names it too. -/
theorem toldWith_checkUnits (field : FieldDecl) (path : Option String) :
    ToldWith [operand] (catalog.checkUnits operand field path) := by
  unfold checkUnits
  split
  · exact .ok
  · refine .bind .lift fun unit => ?_
    split
    · split
      · exact .ok
      · rename_i unnamed
        exact fun _ => ⟨operand, List.mem_singleton_self _, Bool.eq_false_iff.mpr unnamed⟩
    · split
      · exact .ok
      · intro untold
        refine ⟨operand, List.mem_singleton_self _, ?_⟩
        exact CheckFailure.raised_eq_tooManyDigits_iff.mp (Except.error.inj untold)

theorem toldWith_checkUnitsAgainst : ToldWith [a] (catalog.checkUnitsAgainst a b) := by
  cases b with
  | literal value units => exact .ok
  | fact ref => exact .bind .lift fun field => toldWith_checkUnits field _

theorem toldWith_checkFollows : ToldWith [a, b] (catalog.checkFollows a b) := by
  refine .bind ((toldWith_checkOperand none).mono (by simp)) fun type => ?_
  exact .bind ((toldWith_checkOperand _).mono (by simp)) fun _ => .ok

/-- A pair names either side. -/
theorem toldWith_checkAgreement : ToldWith [a, b] (catalog.checkAgreement a b) := by
  unfold checkAgreement
  split
  · exact toldWith_checkFollows.mono (by simp)
  · exact toldWith_checkFollows

theorem toldWith_checkContains {type : ScalarType} :
    ToldWith [a, b] (catalog.checkContains a b type) := by
  unfold checkContains
  split
  · exact .ok
  · cases a with
    | literal value units => exact .reported
    | fact ref => exact .bind ((toldWith_checkOperand _).mono (by simp)) fun _ => .ok

theorem toldWith_checkMember {type : ScalarType} :
    ToldWith [a, b] (catalog.checkMember a b type) := by
  cases b with
  | literal value units => exact .reported
  | fact ref => exact .bind ((toldWith_checkOperand _).mono (by simp)) fun _ => .ok

/-- Whatever the operator asks for, the two sides are what is named. -/
theorem toldWith_checkOperator {operator : Operator} {left right : ScalarType} :
    ToldWith [a, b] (catalog.checkOperator a operator b left right) := by
  have numbers : ToldWith [a, b] (if left = .number ∧ right = .number then return ()
      else throw (.reported (.notNumbers operator left right)) : Except CheckFailure Unit) := by
    split
    · exact .ok
    · exact .reported
  cases operator with
  | equals | notEquals => exact toldWith_checkAgreement
  | contains => exact toldWith_checkContains
  | memberOf => exact toldWith_checkMember
  | greater | greaterOrEqual | less | lessOrEqual => exact numbers

theorem toldWith_checkCompare {operator : Operator} :
    ToldWith [a, b] (catalog.checkCompare a operator b) := by
  refine .bind ((toldWith_checkOperand none).mono (by simp)) fun left => ?_
  refine .bind ((toldWith_checkOperand none).mono (by simp)) fun right => ?_
  refine .bind toldWith_checkOperator fun _ => ?_
  cases a with
  | literal value units => exact toldWith_checkUnitsAgainst.mono (by simp)
  | fact ref => exact toldWith_checkUnitsAgainst.mono (by simp)

theorem toldWith_checkOption : ToldWith [a, b] (catalog.checkOption a b) :=
  .bind toldWith_checkAgreement fun _ => toldWith_checkUnitsAgainst.mono (by simp)

theorem toldWith_checkText : ToldWith [operand] (catalog.checkText operand) :=
  .bind (toldWith_checkOperand _) fun _ => .ok

theorem toldWith_checkWritten {verb target : String} :
    ToldWith [operand] (catalog.checkWritten verb target operand) := by
  refine .bind .lift fun field => .bind ?_ fun _ => toldWith_checkUnits field _
  exact (toldWith_checkOperand _).onWrite

/-- Only what an action writes may have to be named. -/
theorem toldWith_checkAction (action : Action) :
    ToldWith action.operand?.toList (catalog.checkAction action) := by
  cases action with
  | set target value | append target value => exact toldWith_checkWritten
  | increment target delta => exact .bind .lift fun _ => .ok
  | emit event payload | route queue reason => exact .ok

end Catalog

/-- The checks of a condition name its operands. -/
theorem Condition.toldWith_checks {catalog : Catalog} {condition : Condition}
    {check : Except CheckFailure (Option Issue)} (member : check ∈ condition.checks catalog) :
    ToldWith condition.operands check := by
  cases condition with
  | compare lhs operator rhs =>
      rw [List.mem_singleton.mp member]
      exact Catalog.toldWith_checkCompare
  | present fact =>
      rw [List.mem_singleton.mp member]
      exact .bind .lift fun _ => .ok
  | oneOf value options =>
      obtain ⟨option, among, rfl⟩ := List.mem_map.mp member
      refine Catalog.toldWith_checkOption.mono ?_
      simp [operands, among]
  | matching value pattern ignoreCase =>
      rw [List.mem_singleton.mp member]
      exact Catalog.toldWith_checkText
  | all conditions | any conditions | not condition => cases member

/-- A program without numbers that are too long is not untold. -/
theorem Program.Nameable.not_untold {program : Program} (nameable : program.Nameable) :
    ¬ program.Untold := by
  rintro (⟨declared, within, untold⟩ | ⟨declared, among, untold⟩ | clash)
  · obtain ⟨operand, member, unnamed⟩ := Condition.toldWith_checks untold rfl
    cases unnamed.symm.trans (nameable.operands _ declared _ within operand member)
  · obtain ⟨value, written, unnamed⟩ := Catalog.toldWith_checkAction _ untold
    cases unnamed.symm.trans
      (nameable.written _ declared _ among value (Option.mem_toList.mp written))
  · refine Bool.false_ne_true (clash.symm.trans ?_)
    refine clashesHaveText_of_literals fun rule declared => ?_
    refine ⟨nameable.priorities rule declared, fun entry member => ?_⟩
    obtain ⟨action, among, literal⟩ := List.mem_filterMap.mp member
    split at literal
    · cases literal
      exact nameable.written rule declared _ among _ rfl
    · cases literal

/-! ### Outcomes -/

section Outcomes

variable {catalog : Catalog} {ruleIds : List String}

/-- A check is turned into issues where it does not fail unread. -/
theorem issuesOf_returns_iff {check : Except CheckFailure (Option Issue)} :
    (∃ issues, issuesOf ruleIds check = .ok issues) ↔ check ≠ .error .tooManyDigits := by
  rcases check with (e | _) | found <;> simp [issuesOf]

mutual

/-- The issues of a condition are told where those of all its checks are. -/
theorem Condition.issues_returns_iff : ∀ condition : Condition,
    (∃ issues, condition.issues catalog ruleIds = .ok issues) ↔
      ∀ part : Condition, part.Within condition → .error .tooManyDigits ∉ part.checks catalog
  | .compare .. | .present _ | .matching .. => by
      rw [issues, issuesOf_returns_iff]
      constructor
      · intro told part within untold
        cases within
        exact told (List.mem_singleton.mp untold).symm
      · intro told untold
        exact told _ .here (List.mem_singleton.mpr untold.symm)
  | .oneOf value options => by
      rw [issues, gather_returns_iff, List.forall_mem_map]
      simp only [issuesOf_returns_iff]
      constructor
      · intro told part within untold
        cases within
        obtain ⟨option, member, untold⟩ := List.mem_map.mp untold
        exact told option member untold
      · intro told option member untold
        exact told _ .here (List.mem_map.mpr ⟨option, member, untold⟩)
  | .all conditions => by
      rw [issues, gather_returns_iff, issuesOfEach_return_iff conditions]
      constructor
      · intro told part within
        cases within with
        | here => exact List.not_mem_nil
        | all member within => exact told _ member part within
      · exact fun told c member part within => told part (.all member within)
  | .any conditions => by
      rw [issues, gather_returns_iff, issuesOfEach_return_iff conditions]
      constructor
      · intro told part within
        cases within with
        | here => exact List.not_mem_nil
        | any member within => exact told _ member part within
      · exact fun told c member part within => told part (.any member within)
  | .not condition => by
      rw [issues, issues_returns_iff condition]
      constructor
      · intro told part within
        cases within with
        | here => exact List.not_mem_nil
        | not within => exact told part within
      · exact fun told part within => told part (.not within)

theorem Condition.issuesOfEach_return_iff : ∀ conditions : List Condition,
    (∀ outcome ∈ issuesOfEach catalog ruleIds conditions, ∃ part, outcome = .ok part) ↔
      ∀ c ∈ conditions, ∀ part : Condition, part.Within c →
        .error .tooManyDigits ∉ part.checks catalog
  | [] => by simp [issuesOfEach]
  | c :: rest => by
      rw [issuesOfEach, List.forall_mem_cons, List.forall_mem_cons, issues_returns_iff c,
        issuesOfEach_return_iff rest]

end

end Outcomes

/-- All that can be found without the examples of a program is told where no check is untold. -/
theorem foundIssues_returns_iff {program : Program} :
    (∃ issues, foundIssues program = .ok issues) ↔ ¬ program.Untold := by
  -- The wording has nothing to name, so the declarations and the clashes decide.
  have split : (∃ issues, foundIssues program = .ok issues) ↔
      (∃ declared, declarationIssues program = .ok declared) ∧
        clashesHaveText program.rules = true := by
    simp only [foundIssues_eq_ok_iff]
    constructor
    · rintro ⟨_, declared, made, told, _⟩
      exact ⟨⟨declared, made⟩, told⟩
    · rintro ⟨⟨declared, made⟩, told⟩
      exact ⟨_, declared, made, told, rfl⟩
  rw [split, declarationIssues, gather_returns_iff]
  simp only [List.forall_mem_append, List.forall_mem_cons, List.forall_mem_map, Rule.issues,
    gather_returns_iff, issuesOf_returns_iff, Condition.issues_returns_iff]
  constructor
  · rintro ⟨⟨⟨_, rules⟩, constraints⟩, told⟩ untold
    cases untold with
    | condition declared within untold =>
        rcases List.mem_append.mp declared with ofRule | ofConstraint
        · obtain ⟨rule, member, rfl⟩ := List.mem_map.mp ofRule
          exact (rules rule member).1 _ within untold
        · obtain ⟨constraint, member, rfl⟩ := List.mem_map.mp ofConstraint
          exact constraints constraint member _ within untold
    | action declared among untold => exact (rules _ declared).2 _ among untold
    | clash untold => cases untold.symm.trans told
  · intro told
    refine ⟨⟨⟨⟨_, rfl⟩, fun rule member => ⟨fun part within untold => ?_, ?_⟩⟩, ?_⟩, ?_⟩
    · exact told (.condition (List.mem_append_left _ (List.mem_map_of_mem member)) within untold)
    · exact fun action among untold => told (.action member among untold)
    · intro constraint member part within untold
      exact told (.condition (List.mem_append_right _ (List.mem_map_of_mem member)) within untold)
    · exact (Bool.not_eq_false _).mp fun clash => told (.clash clash)

end Rulebook
