import Rulebook.Proofs.Run.Expectation
import Rulebook.Proofs.Validate.Kinds
import Rulebook.Proofs.Validate.Reordered

/-!
Which rules the examples of a program exercise.

An example exercises a rule if its run, with actions, shows the rule as one that has matched and
was not skipped, in whatever pass and however often (`Engine.Exercises`). Coverage counts these
examples for each rule, and the order of the examples is not seen in the counts. No other check of
a program speaks of coverage (`silent_of_foundIssues`), so the warnings that a rule is not covered
are those of the rules that no example exercises, one each (`coverage_counts_examples`).
-/

namespace Rulebook

/-! ### Exercised rules -/

/-- The rule has matched in some pass, and was not skipped there. -/
def ExecutionResult.Fires (result : ExecutionResult) (ruleId : String) : Prop :=
  ∃ entry ∈ result.trace, entry.ruleId = ruleId ∧ entry.matched = true ∧ entry.skipped = false

instance (result : ExecutionResult) (ruleId : String) : Decidable (result.Fires ruleId) :=
  inferInstanceAs (Decidable (∃ entry ∈ result.trace, _))

namespace Engine

def exampleRun (engine : Engine) (program : Program) (options : ExecutionOptions) (ex : Example) :
    Except Interruption ExecutionResult :=
  (engine.run program (.record ex.input)
    { options with enableActions := true, evaluateExamples := false }).result

/-- The run of the example returns, and the rule fires in it. -/
def Exercises (engine : Engine) (program : Program) (options : ExecutionOptions)
    (ruleId : String) (ex : Example) : Prop :=
  ∃ result, engine.exampleRun program options ex = .ok result ∧ result.Fires ruleId

instance (engine : Engine) (program : Program) (options : ExecutionOptions) (ruleId : String)
    (ex : Example) : Decidable (engine.Exercises program options ruleId ex) :=
  match ran : engine.exampleRun program options ex with
  | .error _ => .isFalse fun ⟨_, returned, _⟩ => nomatch ran.symm.trans returned
  | .ok result =>
      decidable_of_iff (result.Fires ruleId)
        ⟨fun fires => ⟨result, ran, fires⟩,
          fun ⟨_, returned, fires⟩ => Except.ok.inj (returned.symm.trans ran) ▸ fires⟩

def ExamplesReturn (engine : Engine) (program : Program) (options : ExecutionOptions) : Prop :=
  ∀ ex ∈ program.examples, ∃ result, engine.exampleRun program options ex = .ok result

/-- In how many of its examples a program exercises a rule. -/
def exercised (engine : Engine) (program : Program) (options : ExecutionOptions)
    (ruleId : String) : Nat :=
  program.examples.countP fun ex => engine.Exercises program options ruleId ex

variable {engine : Engine} {program : Program} {options : ExecutionOptions} {ruleId : String}

/-! ### Counts -/

theorem fails_runExample_iff {ex : Example} :
    Fails (engine.runExample program options ex).result ↔
      Fails (engine.exampleRun program options ex) :=
  runExample_fails_iff_runWith

/-- The rules that count as fired in an example are those that it exercises. -/
theorem firedIn_iff {ex : Example} {verdict : ExampleResult}
    (returned : (engine.runExample program options ex).result = .ok verdict) :
    firedIn ruleId verdict = true ↔ engine.Exercises program options ruleId ex := by
  obtain ⟨result, ran, shown⟩ := runExample_eq_ok_iff.mp returned
  have fires : firedIn ruleId verdict = true ↔ result.Fires ruleId := by
    rw [shown]
    simp only [firedIn, List.any_eq_true, RuleTrace.fired, Bool.and_eq_true, Bool.not_eq_true',
      beq_iff_eq, ExecutionResult.Fires]
    exact exists_congr fun entry => and_congr_right fun _ => and_comm
  rw [fires]
  constructor
  · intro fires
    exact ⟨result, ran, fires⟩
  · rintro ⟨result', ran', fires'⟩
    cases ran.symm.trans ran'
    exact fires'

/-- Of the examples that have been run, as many show the rule as exercise it. -/
theorem countP_firedIn {examples : List Example} {verdicts : List ExampleResult}
    (returned : (engine.runEach program options examples).result = .ok verdicts) :
    verdicts.countP (firedIn ruleId) =
      examples.countP fun ex => engine.Exercises program options ruleId ex := by
  induction examples generalizing verdicts with
  | nil =>
      cases returned
      rfl
  | cons ex rest ih =>
      obtain ⟨verdict, ran, others⟩ := Recorded.result_bind_eq_ok_iff.mp returned
      obtain ⟨later, rest, done⟩ := Recorded.result_bind_eq_ok_iff.mp others
      cases done
      have fires : firedIn ruleId verdict = true ↔ engine.Exercises program options ruleId ex :=
        firedIn_iff ran
      rw [List.countP_cons, List.countP_cons, ih rest]
      by_cases exercised : engine.Exercises program options ruleId ex
      · rw [if_pos (fires.mpr exercised), if_pos (decide_eq_true exercised)]
      · rw [if_neg (mt fires.mp exercised), if_neg (by rwa [decide_eq_true_eq])]

/-- Where the runs of the examples return, coverage counts for each rule the examples that
exercise it. -/
theorem assessCoverage_eq (tested : program.examples ≠ [])
    (returns : engine.ExamplesReturn program options) :
    (engine.assessCoverage program options).result =
      .ok (program.rules.map fun rule =>
        ⟨rule.id, engine.exercised program options rule.id, program.examples.length⟩) := by
  obtain ⟨verdicts, returned⟩ : ∃ verdicts,
      (engine.runEach program options program.examples).result = .ok verdicts := by
    refine returns_iff.mpr fun fails => ?_
    obtain ⟨ex, member, failed⟩ := runEach_fails_iff_exists.mp fails
    exact returns_iff.mp (returns ex member) (fails_runExample_iff.mp failed)
  unfold assessCoverage
  rw [List.isEmpty_eq_false_iff.mpr tested, if_neg Bool.false_ne_true, Recorded.result_bind,
    runExamples, Recorded.result_bind, returned]
  refine congrArg Except.ok (List.map_congr_left fun rule _ => ?_)
  rw [countP_firedIn returned, exercised]

/-- A run looks at the examples of a program only where it is to evaluate them. -/
theorem exampleRun_examples (examples : List Example) (ex : Example) :
    engine.exampleRun { program with examples := examples } options ex =
      engine.exampleRun program options ex := rfl

theorem exercised_perm {examples : List Example} (reordered : examples.Perm program.examples) :
    engine.exercised { program with examples := examples } options ruleId =
      engine.exercised program options ruleId :=
  reordered.countP_eq _

/-- The order of the examples makes no difference to their coverage. -/
theorem assessCoverage_perm {examples : List Example} (tested : program.examples ≠ [])
    (returns : engine.ExamplesReturn program options) (reordered : examples.Perm program.examples) :
    (engine.assessCoverage { program with examples := examples } options).result =
      (engine.assessCoverage program options).result := by
  have tested' : examples ≠ [] := by
    rintro rfl
    exact tested reordered.nil_eq.symm
  have returns' : engine.ExamplesReturn { program with examples := examples } options := by
    intro ex member
    rw [exampleRun_examples]
    exact returns ex (reordered.mem_iff.mp member)
  rw [assessCoverage_eq tested' returns', assessCoverage_eq tested returns]
  refine congrArg Except.ok (List.map_congr_left fun rule _ => ?_)
  rw [exercised_perm reordered]
  exact congrArg _ reordered.length_eq

end Engine

/-! ### Issues that are not about coverage -/

/-- None of these issues says that a rule is not covered. -/
def SilentOnCoverage (issues : List Issue) : Prop :=
  ∀ issue ∈ issues, issue.kind ≠ .uncoveredRule

/-- Whatever is found without running the examples is not about coverage. -/
theorem silent_of_foundIssues {program : Program} {issues : List Issue}
    (found : foundIssues program = .ok issues) : SilentOnCoverage issues := by
  obtain ⟨checked, rfl, kinds⟩ := eq_append_of_foundIssues found
  intro issue member uncovered
  rcases List.mem_append.mp member with duplicate | other
  · cases uncovered.symm.trans (kind_of_mem_duplicateIssues duplicate)
  · exact kinds.kind_ne (by decide) issue other uncovered

/-! ### Warnings -/

/-- Of the rules with distinct ids there is one with the id of a rule. -/
theorem countP_of_distinct {rules : List Rule} (distinct : (rules.map (·.id)).Nodup)
    (test : Rule → Bool) {rule : Rule} (member : rule ∈ rules) :
    rules.countP (fun other => decide (other.id = rule.id) && test other) =
      if test rule then 1 else 0 := by
  induction rules with
  | nil => cases member
  | cons first rest ih =>
      obtain ⟨fresh, distinct⟩ := List.nodup_cons.mp distinct
      rw [List.countP_cons]
      rcases List.mem_cons.mp member with rfl | later
      · have none : rest.countP (fun other => decide (other.id = rule.id) && test other) = 0 := by
          refine List.countP_eq_zero.mpr fun other among both => fresh ?_
          have same : other.id = rule.id := of_decide_eq_true (Bool.and_eq_true_iff.mp both).1
          exact List.mem_map.mpr ⟨other, among, same⟩
        simp [none]
      · have other : first.id ≠ rule.id := by
          intro same
          exact fresh (List.mem_map.mpr ⟨rule, later, same.symm⟩)
        simp [ih distinct later, other]

/-- The warnings of a validation that a rule is not covered: one for each rule with the count 0, in
the order of the rules, and no others. -/
structure Validation.WarnsOfUncovered (validation : Validation) (program : Program)
    (count : String → Nat) : Prop where
  warned : validation.warnings.filter (·.kind = .uncoveredRule) =
    (program.rules.filter fun rule => count rule.id = 0).map fun rule =>
      uncoveredIssue ⟨rule.id, 0, program.examples.length⟩
  once : ∀ rule ∈ program.rules,
    validation.warnings.countP (fun issue =>
      issue.kind = .uncoveredRule ∧ issue.ruleIds = [rule.id]) =
      if count rule.id = 0 then 1 else 0

/-- Where ids are distinct, the warnings that there are tell of each rule how often it is warned
of. -/
theorem Validation.WarnsOfUncovered.of_distinct {validation : Validation} {program : Program}
    {count : String → Nat} (distinct : (program.rules.map (·.id)).Nodup)
    (warned : validation.warnings.filter (·.kind = .uncoveredRule) =
      (program.rules.filter fun rule => count rule.id = 0).map fun rule =>
        uncoveredIssue ⟨rule.id, 0, program.examples.length⟩) :
    validation.WarnsOfUncovered program count := by
  refine ⟨warned, fun rule member => ?_⟩
  have split : validation.warnings.countP (fun issue =>
      issue.kind = .uncoveredRule ∧ issue.ruleIds = [rule.id]) =
      (validation.warnings.filter (·.kind = .uncoveredRule)).countP (·.ruleIds = [rule.id]) := by
    rw [List.countP_filter]
    exact List.countP_congr fun issue _ => by simp [and_comm]
  rw [split, warned, List.countP_map, List.countP_filter]
  have single := countP_of_distinct distinct (fun other => decide (count other.id = 0)) member
  simp only [decide_eq_true_eq] at single
  rw [← single]
  exact List.countP_congr fun other _ => by simp [uncoveredIssue]

/-- The warnings are of the rules no example exercises. -/
theorem filter_coverageIssues {program : Program} (tested : program.examples ≠ [])
    (count : String → Nat) :
    (coverageIssues program (program.rules.map fun rule =>
        ⟨rule.id, count rule.id, program.examples.length⟩)).filter (·.kind = .uncoveredRule) =
      (program.rules.filter fun rule => count rule.id = 0).map fun rule =>
        uncoveredIssue ⟨rule.id, 0, program.examples.length⟩ := by
  have all : ∀ entries : List RuleCoverage,
      (entries.map uncoveredIssue).filter (·.kind = .uncoveredRule) =
        entries.map uncoveredIssue := by
    intro entries
    refine List.filter_eq_self.mpr fun issue member => ?_
    obtain ⟨entry, _, rfl⟩ := List.mem_map.mp member
    rfl
  rw [coverageIssues, List.isEmpty_eq_false_iff.mpr tested, if_neg Bool.false_ne_true, all,
    List.filter_map, List.map_map]
  show (program.rules.filter fun rule => count rule.id = 0).map _ = _
  refine List.map_congr_left fun rule member => ?_
  have zero : count rule.id = 0 := of_decide_eq_true (List.mem_filter.mp member).2
  rw [Function.comp_apply, zero]

/-- The validation of a program in which nothing hard is found has the coverage of its examples. -/
theorem Engine.validate_of_passed {engine : Engine} {program : Program} {issues : List Issue}
    {coverage : List RuleCoverage} (found : foundIssues program = .ok issues)
    (sound : Unobjected issues)
    (assessed : (engine.assessCoverage program (.default engine.settings)).result = .ok coverage) :
    (engine.validate program).result =
      .ok (.ofIssues (issues ++ coverageIssues program coverage) coverage) :=
  validate_eq_ok_iff.mpr ⟨issues, found, .inr ⟨sound, coverage, assessed, rfl⟩⟩

/-- Where the runs of the examples return, only an error that cannot be told leaves a program
without a verdict. -/
theorem Engine.validate_returns_of_examples {engine : Engine} {program : Program}
    (returns : engine.ExamplesReturn program (.default engine.settings)) :
    (∃ validation, (engine.validate program).result = .ok validation) ↔ ¬ program.Untold := by
  rw [returns_iff, validate_fails_iff, not_iff_not]
  refine or_iff_left ?_
  rintro ⟨_, ex, member, failed⟩
  exact returns_iff.mp (returns ex member) (fails_runExample_iff.mp failed)

/-- A validation that finds nothing hard warns of the rules that no example exercises, in their
order. -/
theorem Engine.uncovered_warnings {engine : Engine} {program : Program} {validation : Validation}
    (tested : program.examples ≠ [])
    (returns : engine.ExamplesReturn program (.default engine.settings))
    (validated : (engine.validate program).result = .ok validation)
    (valid : validation.valid = true) :
    validation.warnings.filter (·.kind = .uncoveredRule) =
      (program.rules.filter fun rule =>
        engine.exercised program (.default engine.settings) rule.id = 0).map fun rule =>
          uncoveredIssue ⟨rule.id, 0, program.examples.length⟩ := by
  obtain ⟨issues, found, warnings⟩ := warnings_eq_of_valid validated valid
  obtain ⟨issues', found', sound⟩ := (valid_iff validated).mp valid
  cases found.symm.trans found'
  have covered := validate_of_passed found sound (assessCoverage_eq tested returns)
  cases validated.symm.trans covered
  -- Only the coverage warns of rules that are not covered.
  have silent : issues.filter (·.kind = .uncoveredRule) = [] := by
    refine List.filter_eq_nil_iff.mpr fun issue member => ?_
    rw [decide_eq_true_eq]
    exact silent_of_foundIssues found issue member
  rw [warnings, List.filter_append, silent, List.nil_append]
  exact filter_coverageIssues tested _

/-- Coverage has an entry for each rule, in the order of declaration, that counts the examples which
exercise it, each once, out of all there are. The order of the examples makes no difference. A
validation, under whose options the examples have to return as well, ends unless there is an error
that it cannot tell. And if nothing hard was found, it warns exactly once of each rule that no
example exercises under the options of a caller who gives none, and of no other. -/
theorem coverage_counts_examples (engine : Engine) (program : Program)
    (tested : program.examples ≠ []) :
    (∀ options, engine.ExamplesReturn program options → ∃ coverage,
      (engine.assessCoverage program options).result = .ok coverage ∧
      coverage = (program.rules.map fun rule =>
        ⟨rule.id, engine.exercised program options rule.id, program.examples.length⟩) ∧
      (∀ entry ∈ coverage, entry.matchedInExamples ≤ entry.totalExamples) ∧
      ∀ examples, examples.Perm program.examples →
        (engine.assessCoverage { program with examples := examples } options).result =
          .ok coverage) ∧
    (engine.ExamplesReturn program (.default engine.settings) →
      ((∃ validation, (engine.validate program).result = .ok validation) ↔ ¬ program.Untold) ∧
      ∀ validation, (engine.validate program).result = .ok validation →
        validation.valid = true → validation.WarnsOfUncovered program
          (engine.exercised program (.default engine.settings))) := by
  constructor
  · intro options returns
    refine ⟨_, Engine.assessCoverage_eq tested returns, rfl, ?_, ?_⟩
    · intro entry member
      obtain ⟨rule, _, rfl⟩ := List.mem_map.mp member
      exact List.countP_le_length
    · intro examples reordered
      rw [Engine.assessCoverage_perm tested returns reordered]
      exact Engine.assessCoverage_eq tested returns
  · intro returns
    refine ⟨Engine.validate_returns_of_examples returns, fun validation validated valid => ?_⟩
    have distinct := (passed_foundIssues_iff.mp ((Engine.valid_iff validated).mp valid)).1.rules
    exact .of_distinct distinct (Engine.uncovered_warnings tested returns validated valid)

def brightExample : Example :=
  ⟨"bright", none, [("lamp", .record [("level", .int 3)])], []⟩

def darkExample : Example :=
  ⟨"dark", none, [("lamp", .record [("level", .int 0)])], []⟩

def isBright : Condition :=
  .compare (.fact ⟨"lamp.level", none⟩) .greater (.literal (.int 1) none)

def dimRule : Rule :=
  { Rule.plain "dim" 1 isBright [.increment "lamp.level" (.int (-1))] [] with
    stopProcessing := true }

def outRule : Rule :=
  .plain "out" 0 isBright [.set "lamp.level" (.literal (.int 0) none)] []

/-- A bright lamp is dimmed step by step, which cuts the rule off that would put it out. -/
def lampProgram : Program :=
  { Program.plain "lamp" [("level", .number)] [dimRule, outRule] with
    examples := [brightExample, darkExample] }

def lampCoverage : List RuleCoverage := [⟨"dim", 1, 2⟩, ⟨"out", 0, 2⟩]

theorem lampProgram_rules : lampProgram.rules = [dimRule, outRule] := rfl

theorem lampProgram_examples : lampProgram.examples = [brightExample, darkExample] := rfl

theorem lampProgram_sorted : sortRules lampProgram.rules = lampProgram.rules :=
  List.mergeSort_of_pairwise (by decide +kernel)

/-- Nothing is found in the program without its examples. -/
theorem lampProgram_found : foundIssues lampProgram = .ok [] := by
  have sorted : (lampProgram.rules.mergeSort fun a b => nameAtMost a.id b.id) =
      lampProgram.rules := List.mergeSort_of_pairwise (by decide +kernel)
  have nothing : returnsWith List.isEmpty (foundIssues lampProgram) = true := by
    simp only [foundIssues, findClashes, clashesHaveText, clashIssues, literalWriters, sorted]
    decide +kernel
  obtain ⟨issues, found, empty⟩ := eq_ok_of_returnsWith nothing
  rw [found, List.isEmpty_iff.mp empty]

section Lamp

variable {options : ExecutionOptions}
  (among : options ∈ [ExecutionOptions.looping 100, .default .default])

include among

/-- Both examples of the sample program return. -/
theorem lamp_examples_return : (⟨.default, 4⟩ : Engine).ExamplesReturn lampProgram options := by
  have returns : ∀ options ∈ [ExecutionOptions.looping 100, .default .default],
      ∀ ex ∈ lampProgram.examples, returnsWith (fun _ => true)
        ((⟨.default, 4⟩ : Engine).exampleRun lampProgram options ex) = true := by
    simp only [Engine.exampleRun, Engine.run, Engine.runWith, Engine.execute, Engine.context,
      lampProgram_sorted]
    decide +kernel
  intro ex member
  obtain ⟨result, ran, _⟩ := eq_ok_of_returnsWith (returns options among ex member)
  exact ⟨result, ran⟩

/-- The lamp is dimmed in the bright example, twice under the one of the options. -/
theorem lamp_assessed :
    ((⟨.default, 4⟩ : Engine).assessCoverage lampProgram options).result = .ok lampCoverage := by
  have returns : ∀ options ∈ [ExecutionOptions.looping 100, .default .default],
      returnsWith (fun coverage => decide (coverage = lampCoverage))
        ((⟨.default, 4⟩ : Engine).assessCoverage lampProgram options).result = true := by
    simp only [Engine.assessCoverage, Engine.runExamples, lampProgram_examples, Engine.runEach,
      Engine.runExample, Engine.runWith, Engine.execute, Engine.context, lampProgram_sorted]
    decide +kernel
  obtain ⟨coverage, assessed, same⟩ := eq_ok_of_returnsWith (returns options among)
  rw [assessed, of_decide_eq_true same]

end Lamp

/-- One example exercises the rule that dims the lamp, also where it does so twice. None exercises
the rule that puts it out, though its condition holds, and that is warned of. -/
theorem lamp_coverage_counted :
    lampProgram.examples ≠ [] ∧
    (∀ options ∈ [ExecutionOptions.looping 100, .default .default],
      (⟨.default, 4⟩ : Engine).exercised lampProgram options "dim" = 1 ∧
      (⟨.default, 4⟩ : Engine).exercised lampProgram options "out" = 0) ∧
    ∃ validation, ((⟨.default, 4⟩ : Engine).validate lampProgram).result = .ok validation ∧
      validation.warnings.filter (·.kind = .uncoveredRule) = [uncoveredIssue ⟨"out", 0, 2⟩] := by
  have tested : lampProgram.examples ≠ [] := List.cons_ne_nil _ _
  obtain ⟨counts, warns⟩ := coverage_counts_examples ⟨.default, 4⟩ lampProgram tested
  have counted : ∀ options ∈ [ExecutionOptions.looping 100, .default .default],
      (⟨.default, 4⟩ : Engine).exercised lampProgram options "dim" = 1 ∧
        (⟨.default, 4⟩ : Engine).exercised lampProgram options "out" = 0 := by
    intro options among
    obtain ⟨coverage, returned, entries, _⟩ := counts options (lamp_examples_return among)
    cases (lamp_assessed among).symm.trans returned
    rw [lampProgram_rules, lampCoverage] at entries
    obtain ⟨dim, others⟩ := List.cons.inj entries
    exact ⟨(RuleCoverage.mk.inj dim).2.1.symm,
      (RuleCoverage.mk.inj (List.cons.inj others).1).2.1.symm⟩
  have last : ExecutionOptions.default .default ∈
      [ExecutionOptions.looping 100, .default .default] :=
    List.mem_cons_of_mem _ List.mem_cons_self
  obtain ⟨_, warned⟩ := warns (lamp_examples_return last)
  have validated := Engine.validate_of_passed lampProgram_found nofun (lamp_assessed last)
  have valid := (Engine.valid_iff validated).mpr ⟨[], lampProgram_found, nofun⟩
  refine ⟨tested, counted, _, validated, ?_⟩
  obtain ⟨dim, out⟩ := counted _ last
  rw [(warned _ validated valid).warned, lampProgram_rules, lampProgram_examples]
  simp [dimRule, outRule, Rule.plain, dim, out]

def tareRule : Rule :=
  .plain "tare" 0 (.compare (.fact ⟨"crate.weight", none⟩) .equals (.literal .long none)) [] []

/-- A weight in `kg` that is compared with a long number without a unit. -/
def tareProgram : Program :=
  { Program.plain "crate" [] [tareRule] with
    entities := [⟨"crate", [⟨"weight", .number, some "kg", none⟩], none⟩]
    examples := [⟨"light", none, [("crate", .record [("weight", .int 3)])], []⟩] }

/-- That the number has no unit would be a soft issue, and there is nothing hard about the program.
But it is not warned of the rule that its example does not exercise, as there is no validation. -/
theorem tare_not_warned :
    tareProgram.DistinctlyNamed ∧
      (∀ part : Condition, part.Within tareRule.condition →
        ∀ check ∈ part.checks (.ofProgram tareProgram), ¬ Reported check) ∧
      clashIssues tareProgram.rules = [] ∧
      (⟨.default, 1⟩ : Engine).ExamplesReturn tareProgram (.default .default) ∧
      (⟨.default, 1⟩ : Engine).exercised tareProgram (.default .default) "tare" = 0 ∧
      ((⟨.default, 1⟩ : Engine).validate tareProgram).result = .error .tooManyDigits := by
  refine ⟨⟨⟨by decide, by decide⟩, by decide, by decide, by decide⟩, ?_, ?_, ?_, ?_, ?_⟩
  · intro part within check member
    have untold : (Catalog.ofProgram tareProgram).checkCompare (.fact ⟨"crate.weight", none⟩)
        .equals (.literal .long none) = .error .tooManyDigits := by decide +kernel
    cases within
    rw [List.mem_singleton.mp member, untold]
    exact not_reported_tooManyDigits
  · decide +kernel
  · intro ex member
    have returns : ∀ ex ∈ tareProgram.examples, returnsWith (fun _ => true)
        ((⟨.default, 1⟩ : Engine).exampleRun tareProgram (.default .default) ex) = true := by
      decide +kernel
    obtain ⟨result, ran, _⟩ := eq_ok_of_returnsWith (returns ex member)
    exact ⟨result, ran⟩
  · decide +kernel
  · apply eq_error_of_endsWith
    decide +kernel

end Rulebook
