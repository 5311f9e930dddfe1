import Rulebook.Document.Canonical
import Rulebook.Proofs.Run.Plain
import Rulebook.Proofs.Run.Resemblance
import Rulebook.Proofs.Run.Termination

/-!
Payloads with another order of keys.

What a run does not look at cannot show in its result. A run comes to the conditions of rules,
also of those that a stop has cut off, and to the assertions of constraints (`Engine.Evaluates`).
If none of them sees the order of keys, the run on a payload with its keys in another order
does the same, step by step, and its result has the same canonical text
(`run_canonical_of_reordered`). A condition can see that order: an object that is looked for in a
text is written there with its keys as they come (`searched_keys_are_seen`).
-/

namespace Rulebook

/-! ### What is evaluated -/

/-- A pass comes to the condition, of a rule that is run or of one that is skipped, on these
facts. -/
inductive PassEvaluates (context : RunContext) :
    List Rule → Progress → Condition → Store → Prop where
  | here {rule rest before} :
      PassEvaluates context (rule :: rest) before rule.condition before.workspace.store
  | later {rule rest before why outcomes middle condition store} :
      RuleRan context rule before why outcomes middle →
      context.continuation rule why middle = .next →
      PassEvaluates context rest middle condition store →
      PassEvaluates context (rule :: rest) before condition store
  | skipped {rule rest before why outcomes after other} :
      RuleRan context rule before why outcomes after →
      context.continuation rule why after = .stopped → other ∈ rest →
      PassEvaluates context (rule :: rest) before other.condition after.workspace.store

/-- A run from a state comes to the condition on these facts, in one of its passes or with the
constraints on its final state. -/
inductive Engine.Evaluates (engine : Engine) (program : Program) (options : ExecutionOptions)
    (start : Store) : Condition → Store → Prop where
  | rule {n before condition store} :
      Reached (engine.context program options) (.start start) n before → n < engine.passLimit →
      PassEvaluates (engine.context program options) (sortRules program.rules) before condition
        store →
      Evaluates engine program options start condition store
  | constraint {execution constraint} :
      (engine.execute program start options).result = .ok execution →
      constraint ∈ program.constraints →
      Evaluates engine program options start constraint.assertion
        execution.progress.workspace.store

/-! ### Rules -/

section Rules

variable {context : RunContext} {number : Nat} {p q : Progress}

theorem applyActions_turned (ruleId : String) (actions : List Action) (turned : p.Turned q) :
    Except.Rel (fun x y => List.Forall₂ ActionOutcome.Resembles x.1 y.1 ∧ x.2.Turned y.2)
      (applyActions context ruleId actions p).result
      (applyActions context ruleId actions q).result := by
  induction actions generalizing p q with
  | nil => exact .ok ⟨.nil, turned⟩
  | cons action rest ih =>
      have first : Except.Rel (fun x y => x.1.Resembles y.1 ∧ x.2.Turned y.2)
          (context.act ruleId p action) (context.act ruleId q action) := by
        unfold RunContext.act
        rw [turned.actionCount]
        exact Action.apply_turned turned.workspace
      rw [applyActions_cons_result, applyActions_cons_result]
      refine first.bind fun made made' _ same => ?_
      have middle : (p.acted made.2).Turned (q.acted made'.2) :=
        ⟨same.2, congrArg (· + 1) turned.actionCount, turned.firings⟩
      exact (ih middle).bind fun more more' _ later => .ok ⟨.cons same.1 later.1, later.2⟩

theorem evaluateRule_turned {s t : Store} (reordered : s.Reordered t) (rule : Rule)
    (blind : ¬ rule.condition.SeesOrder s) :
    Except.Rel ConditionTrace.Resembles (evaluateRule rule s).result
      (evaluateRule rule t).result :=
  rule.condition.evaluate_reordered reordered blind

theorem Progress.Turned.count (turned : p.Turned q) (matched : Bool) :
    (p.count matched).Turned (q.count matched) := by
  cases matched with
  | false => exact turned
  | true => exact ⟨turned.workspace, turned.actionCount, congrArg (· + 1) turned.firings⟩

theorem runRule_turned (rule : Rule) (turned : p.Turned q)
    (blind : ¬ rule.condition.SeesOrder p.workspace.store) :
    Except.Rel (fun x y => x.1.Resembles y.1 ∧ x.2.1 = y.2.1 ∧ x.2.2.Turned y.2.2)
      (runRule context number rule p).result (runRule context number rule q).result := by
  simp only [runRule, Recorded.result_bind]
  refine (evaluateRule_turned turned.workspace.store rule blind).bind fun why why' _ whys => ?_
  rw [← whys.result]
  refine (applyActions_turned rule.id _ (turned.count why.result)).bind fun made made' _ same => ?_
  refine .ok ⟨?_, ?_, same.2⟩
  · have steps := stepOf_resembles same.1 context number rule whys
    simpa only [RunContext.stepOf, ← whys.result] using steps
  · simp only [same.2.firings]

theorem skipRules_turned {s t : Store} (reordered : s.Reordered t) (rules : List Rule)
    (blind : ∀ rule ∈ rules, ¬ rule.condition.SeesOrder s) :
    Except.Rel (List.Forall₂ RuleStep.Resembles) (skipRules number s rules).result
      (skipRules number t rules).result := by
  induction rules with
  | nil => exact .ok .nil
  | cons rule rest ih =>
      obtain ⟨here, there⟩ := List.forall_mem_cons.mp blind
      simp only [skipRules, Recorded.result_bind]
      refine (evaluateRule_turned reordered rule here).bind fun why why' _ whys => ?_
      refine (ih there).bind fun steps steps' _ same => ?_
      exact .ok (.cons (skippedTrace_resembles number rule whys) same)

end Rules

/-! ### Passes and runs -/

/-- The passes end alike, after steps that resemble each other. -/
structure Pass.Resembles (a b : Pass) : Prop where
  steps : List.Forall₂ RuleStep.Resembles a.steps b.steps
  continuation : a.continuation = b.continuation

/-- The steps resemble each other, and the facts at the end are the same but for the order of
keys. -/
structure Execution.Resembles (a b : Execution) : Prop where
  steps : List.Forall₂ RuleStep.Resembles a.steps b.steps
  progress : a.progress.Turned b.progress
  hitRuleLimit : a.hitRuleLimit = b.hitRuleLimit

theorem RuleStep.Resembles.mutated {a b : RuleStep} (same : a.Resembles b) :
    a.mutated = b.mutated :=
  any_eq_of_forall₂ same.outcomes fun _ _ one => one.mutated

theorem Pass.Resembles.continues {a b : Pass} (same : a.Resembles b)
    (options : ExecutionOptions) : a.continues options = b.continues options := by
  have mutated : a.mutated = b.mutated :=
    any_eq_of_forall₂ same.steps fun _ _ one => one.mutated
  rw [Pass.continues, Pass.continues, mutated, same.continuation]

theorem Execution.Resembles.outcomes {a b : Execution} (same : a.Resembles b) :
    List.Forall₂ ActionOutcome.Resembles a.outcomes b.outcomes :=
  List.rel_flatMap same.steps fun _ _ one => one.outcomes

section Runs

variable {context : RunContext} {number : Nat} {p q : Progress}

/-- A pass in which no condition sees the order of keys goes alike on facts that differ in that
order only. -/
theorem runRules_turned (rules : List Rule) (turned : p.Turned q)
    (blind : ∀ condition store, PassEvaluates context rules p condition store →
      ¬ condition.SeesOrder store) :
    Except.Rel (fun x y => x.1.Resembles y.1 ∧ x.2.Turned y.2)
      (runRules context number rules p).result (runRules context number rules q).result := by
  induction rules generalizing p q with
  | nil => exact .ok ⟨⟨.nil, rfl⟩, turned⟩
  | cons rule rest ih =>
      simp only [runRules, Recorded.result_bind]
      refine (runRule_turned rule turned (blind _ _ .here)).bind ?_
      rintro ⟨step, onward, middle⟩ ⟨step', onward', middle'⟩ returned ⟨steps, goesOn, states⟩
      obtain ⟨why, outcomes, ran, rfl, continues⟩ := runRule_eq_ok_iff.mp returned
      cases goesOn
      cases onward with
      | next =>
          simp only [Recorded.result_bind]
          refine (ih states fun condition store later =>
            blind _ _ (.later ran continues.symm later)).bind fun more more' _ same => ?_
          exact .ok ⟨⟨.cons steps same.1.steps, same.1.continuation⟩, same.2⟩
      | capped => exact .ok ⟨⟨.cons steps .nil, rfl⟩, states⟩
      | stopped =>
          simp only [Recorded.result_bind]
          refine (skipRules_turned states.workspace.store rest fun other member =>
            blind _ _ (.skipped ran continues.symm member)).bind fun more more' _ same => ?_
          exact .ok ⟨⟨.cons steps same, rfl⟩, states⟩

/-- So do all passes of a run that are left to it. -/
theorem runPasses_turned {start : Progress} {limit n : Nat} (reached : Reached context start n p)
    (turned : p.Turned q)
    (blind : ∀ m before condition store, Reached context start m before → m < n + limit →
      PassEvaluates context context.rules before condition store → ¬ condition.SeesOrder store) :
    Except.Rel Execution.Resembles (runPasses context limit (n + 1) p).result
      (runPasses context limit (n + 1) q).result := by
  induction limit generalizing n p q with
  | zero => exact .error _
  | succ limit ih =>
      simp only [runPasses, Recorded.result_bind]
      refine (runRules_turned context.rules turned fun condition store =>
        blind n p condition store reached (by omega)).bind ?_
      rintro ⟨pass, middle⟩ ⟨pass', middle'⟩ returned ⟨same, states⟩
      simp only [← same.continues]
      -- Both runs go on or both end, since passes that resemble each other mutate alike.
      cases continues : pass.continues context.options with
      | false => exact .ok ⟨same.steps, states, congrArg (· == .capped) same.continuation⟩
      | true =>
          simp only [if_true, Recorded.result_bind]
          refine (ih (reached.again returned continues) states fun m before condition store visited
            few => blind m before condition store visited (by omega)).bind ?_
          exact fun more more' _ later =>
            .ok ⟨List.rel_append same.steps later.steps, later.progress, later.hitRuleLimit⟩

end Runs

/-! ### Results -/

theorem Engine.execute_turned {engine : Engine} {program : Program} {options : ExecutionOptions}
    {s t : Store} (reordered : s.Reordered t)
    (blind : ∀ condition store, engine.Evaluates program options s condition store →
      ¬ condition.SeesOrder store) :
    Except.Rel Execution.Resembles (engine.execute program s options).result
      (engine.execute program t options).result := by
  refine runPasses_turned .start ⟨⟨reordered, rfl⟩, rfl, rfl⟩ ?_
  intro m before condition store reached few evaluates
  exact blind _ _ (.rule reached (by omega) evaluates)

/-- Runs that resemble each other have one canonical text. -/
theorem Engine.resultOf_canonical {a b : Execution} {report report' : ConstraintReport}
    (same : a.Resembles b) (reports : report.Resembles report')
    (tests : Option (List ExampleResult)) :
    (resultOf a report tests).toValue.canonicalText =
      (resultOf b report' tests).toValue.canonicalText := by
  have outcomes := same.outcomes
  have state := same.progress.workspace.store.snapshot
  have actions : (Value.list ((a.outcomes.filterMap (·.log)).map ActionLog.toValue)).canonical =
      (Value.list ((b.outcomes.filterMap (·.log)).map ActionLog.toValue)).canonical := by
    refine Value.canonical_list_congr ?_
    rw [List.map_map, List.map_map]
    exact ActionOutcome.logs_eq outcomes
  have trace : (Value.list ((a.steps.map (·.trace)).map RuleTrace.toValue)).canonical =
      (Value.list ((b.steps.map (·.trace)).map RuleTrace.toValue)).canonical := by
    rw [List.map_map, List.map_map]
    exact Value.canonical_list_of_forall₂ same.steps fun _ _ one => one.trace
  have conflicts := filterMap_eq_of_forall₂ outcomes fun _ _ one => one.conflict
  have issues := flatMap_eq_of_forall₂ outcomes fun _ _ one => one.issues
  refine congrArg (fun v : Value => v.json .compact) (Value.canonical_record_congr ?_)
  simp only [resultOf, List.map_cons, List.map_nil, state, actions, trace, reports.text,
    reports.hasErrors_eq, same.hitRuleLimit, same.progress.firings, conflicts, issues]

/-- On states that differ in the order of keys only an execution ends in the same way. -/
theorem Engine.runWith_turned {engine : Engine} {program : Program} {payload payload' : Value}
    {options : ExecutionOptions} {s t : Store} (taken : Store.ofPayload payload = .ok s)
    (taken' : Store.ofPayload payload' = .ok t) (reordered : s.Reordered t)
    (blind : ∀ condition store, engine.Evaluates program options s condition store →
      ¬ condition.SeesOrder store)
    (tests : Recorded Interruption (Option (List ExampleResult))) :
    Except.Rel (fun result result' => result.toValue.canonicalText = result'.toValue.canonicalText)
      (engine.runWith program payload options tests).result
      (engine.runWith program payload' options tests).result := by
  simp only [runWith, Recorded.result_bind, Recorded.result_inScope, Recorded.result_lift,
    taken, taken', measure_result]
  refine Except.Rel.bind ?_ fun _ _ _ same => .ok same
  refine (execute_turned reordered blind).bind fun execution execution' executed same => ?_
  have checks := checkConstraints_reordered same.progress.workspace.store program.constraints
    fun constraint member => blind _ _ (.constraint executed member)
  refine checks.bind fun report report' _ reports => ?_
  refine (Except.Rel.refl tests.result).bind fun _ _ _ tested => ?_
  subst tested
  exact .ok (resultOf_canonical same reports _)

/-- A run does not depend on the order of keys in its payload, at any depth, unless one of its
conditions sees that order. On both payloads the run returns, with results of one canonical text,
or on neither. -/
theorem run_canonical_of_reordered (engine : Engine) (program : Program) (payload payload' : Value)
    (options : ExecutionOptions) (keyed : payload.Keyed) (reordered : payload.Reordered payload')
    (blind : ∀ start, Store.ofPayload payload = .ok start → ∀ condition store,
      engine.Evaluates program options start condition store → ¬ condition.SeesOrder store) :
    (∃ result result', (engine.run program payload options).result = .ok result ∧
        (engine.run program payload' options).result = .ok result' ∧
        result.toValue.canonicalText = result'.toValue.canonicalText) ∨
      ∃ e e', (engine.run program payload options).result = .error e ∧
        (engine.run program payload' options).result = .error e' := by
  rcases Store.ofPayload_reordered keyed reordered with
    ⟨s, t, taken, taken', states⟩ | ⟨refused, refused'⟩
  · have both := Engine.runWith_turned taken taken' states (blind s taken)
      (if options.evaluateExamples then
        some <$> engine.runExamples program (.default engine.settings)
      else pure none)
    unfold Engine.run
    generalize (engine.runWith program payload options _).result = x at both ⊢
    generalize (engine.runWith program payload' options _).result = y at both ⊢
    cases both with
    | error e => exact .inr ⟨e, e, rfl, rfl⟩
    | ok same => exact .inl ⟨_, _, rfl, rfl, same⟩
  · refine .inr ⟨.store (.payloadNotMapping payload), .store (.payloadNotMapping payload'), ?_, ?_⟩
    · simp [Engine.run, Engine.runWith, refused, Except.mapError, Except.bind]
    · simp [Engine.run, Engine.runWith, refused', Except.mapError, Except.bind]

/-- A rule that copies the source of a note when it finds the mark in the text. -/
def copyProgram : Program :=
  .plain "note" [("text", .string), ("mark", .number), ("source", .number), ("copy", .number)]
    [.plain "look" 1 (.compare (.fact ⟨"note.text", none⟩) .contains (.fact ⟨"note.mark", none⟩))
      [.set "note.copy" (.fact ⟨"note.source", none⟩)] []]

/-- The text of a note that shows two keys in their order. -/
def shownKeys : String := "\x7b'a': 1, 'b': 2\x7d"

def copyPayload (mark source : Value) : Value :=
  Record.payload "note" [("text", .text shownKeys), ("mark", mark), ("source", source)]

def twoKeys : Value := .record [("a", .int 1), ("b", .int 2)]

def twoKeysTurned : Value := .record [("b", .int 2), ("a", .int 1)]

theorem twoKeys_turned : twoKeys.Turned twoKeysTurned := by
  have keyed : twoKeys.Keyed := by
    refine Value.keyed_record (by decide) ?_
    simp only [List.forall_mem_cons]
    exact ⟨.scalar rfl, .scalar rfl, by simp⟩
  exact ⟨keyed, .of_perm keyed (.swap ..)⟩

theorem copyPayload_turned {mark mark' source source' : Value} (marks : mark.Turned mark')
    (sources : source.Turned source') :
    (copyPayload mark source).Turned (copyPayload mark' source') where
  keyed := by
    refine Record.keyed_payload (by simp) ?_
    simp only [List.forall_mem_cons]
    exact ⟨.scalar rfl, marks.keyed, sources.keyed, by simp⟩
  reordered := by
    refine Value.reordered_record (.cons ⟨rfl, ?_⟩ .nil) (List.nodup_singleton _)
    refine Value.reordered_record (.cons ⟨rfl, .scalar rfl⟩ ?_) (by simp)
    exact .cons ⟨rfl, marks.reordered⟩ (.cons ⟨rfl, sources.reordered⟩ .nil)

theorem copyProgram_sorted : sortRules copyProgram.rules = copyProgram.rules :=
  List.mergeSort_of_pairwise (by decide +kernel)

def copies (mark source : Value) (copied : Bool) : Bool :=
  returnsWith (fun result => result.actions.isEmpty != copied)
    ((⟨.default, 1⟩ : Engine).run copyProgram (copyPayload mark source) .once).result

/-- The one pass over a note comes to the one condition, on the facts of the payload. -/
theorem copyProgram_evaluates {start store : Store} {condition : Condition}
    (evaluates : (⟨.default, 1⟩ : Engine).Evaluates copyProgram .once start condition store) :
    condition = .compare (.fact ⟨"note.text", none⟩) .contains (.fact ⟨"note.mark", none⟩) ∧
      store = start := by
  cases evaluates with
  | constraint _ member => cases member
  | @rule n _ _ _ reached few passes =>
      obtain rfl : n = 0 := Nat.lt_one_iff.mp few
      cases reached
      rw [copyProgram_sorted] at passes
      cases passes with
      | here => exact ⟨rfl, rfl⟩
      | later _ _ rest => cases rest
      | skipped _ _ member => cases member

/-- Where the mark is a number, the keys of the source that is copied may come in any order. -/
theorem copied_source_reads_same :
    (copyPayload (.int 1) twoKeys).Keyed ∧
      (copyPayload (.int 1) twoKeys).Reordered (copyPayload (.int 1) twoKeysTurned) ∧
      ∃ result result',
        ((⟨.default, 1⟩ : Engine).run copyProgram (copyPayload (.int 1) twoKeys) .once).result =
          .ok result ∧
        ((⟨.default, 1⟩ : Engine).run copyProgram (copyPayload (.int 1) twoKeysTurned)
          .once).result = .ok result' ∧
        result.actions ≠ [] ∧ result.toValue.canonicalText = result'.toValue.canonicalText := by
  obtain ⟨keyed, reordered⟩ :=
    copyPayload_turned (.scalar rfl : (Value.int 1).Turned (.int 1)) twoKeys_turned
  have blind : ∀ start, Store.ofPayload (copyPayload (.int 1) twoKeys) = .ok start →
      ∀ condition store,
        (⟨.default, 1⟩ : Engine).Evaluates copyProgram .once start condition store →
          ¬ condition.SeesOrder store := by
    intro start taken condition store evaluates
    obtain ⟨rfl, rfl⟩ := copyProgram_evaluates evaluates
    rintro ⟨text, v, w, -, mark, related, differs⟩
    -- The mark is 1, and a number has no keys.
    cases taken
    cases mark
    cases related
    exact differs rfl
  have copied : copies (.int 1) twoKeys true = true := by
    simp only [copies, Engine.run, Engine.runWith, Engine.execute, Engine.context,
      copyProgram_sorted]
    decide +kernel
  obtain ⟨result, returned, logged⟩ := eq_ok_of_returnsWith copied
  rcases run_canonical_of_reordered ⟨.default, 1⟩ copyProgram _ _ .once keyed reordered blind with
    ⟨_, result', returned', again, same⟩ | ⟨e, _, interrupted, _⟩
  · cases returned.symm.trans returned'
    exact ⟨keyed, reordered, result, result', returned, again, by simpa using logged, same⟩
  · cases interrupted.symm.trans returned

/-! ### Keys that are seen -/

namespace JsonText

/-- What stands in brackets begins with the first item. -/
theorem bracketed_cons (depth : Nat) (first last item : String) (rest : List String) :
    ∃ more, bracketed .compact depth first last (item :: rest) = first ++ (item ++ more) := by
  cases rest with
  | nil =>
      refine ⟨last, ?_⟩
      simp [bracketed, JsonStyle.compact, String.append_assoc]
  | cons other rest =>
      refine ⟨"," ++ (",".intercalate (other :: rest) ++ last), ?_⟩
      simp [bracketed, JsonStyle.compact, String.intercalate_cons_cons, String.append_assoc]

theorem record_begins (depth : Nat) (fields : List (String × Value)) :
    ∃ more, value .compact depth (Value.record fields).canonical = "\x7b" ++ more := by
  rw [Value.record, Value.canonical, value]
  cases JsonText.fields .compact (depth + 1) _ with
  | nil => exact ⟨"\x7d", rfl⟩
  | cons item rest =>
      obtain ⟨more, text⟩ := bracketed_cons depth "\x7b" "\x7d" item rest
      exact ⟨_, text⟩

theorem list_begins (depth : Nat) (v : Value) (rest : List Value) :
    ∃ more, value .compact depth (Value.list (v :: rest)).canonical =
      "[" ++ (value .compact (depth + 1) v.canonical ++ more) := by
  rw [Value.canonical, Value.canonicalItems, value, items]
  exact bracketed_cons depth "[" "]" _ _

end JsonText

namespace ExecutionResult

/-- The text of a result begins with the actions that were logged. -/
theorem canonicalText_begins (result : ExecutionResult) :
    ∃ more, result.toValue.canonicalText = "\x7b" ++ ("\"actions\":" ++
      JsonText.value .compact 1 (Value.list (result.actions.map ActionLog.toValue)).canonical ++
      more) := by
  obtain ⟨rest, first⟩ : ∃ rest, result.toValue.canonical =
      .record (("actions", (Value.list (result.actions.map ActionLog.toValue)).canonical) ::
        rest) := by
    refine Value.canonical_record_first (by simp) (by simp) ?_
    simp only [List.map_cons, List.map_nil]
    decide
  rw [Value.canonicalText, Value.json, first]
  exact JsonText.bracketed_cons 0 _ _ _ _

/-- The text of a result tells whether actions were logged. -/
theorem actions_eq_nil_of_canonicalText {a b : ExecutionResult} (none : a.actions = [])
    (same : a.toValue.canonicalText = b.toValue.canonicalText) : b.actions = [] := by
  obtain ⟨restA, textA⟩ := a.canonicalText_begins
  obtain ⟨restB, textB⟩ := b.canonicalText_begins
  cases logged : b.actions with
  | nil => rfl
  | cons log logs =>
      obtain ⟨more, list⟩ := JsonText.list_begins 1 log.toValue (logs.map ActionLog.toValue)
      obtain ⟨inner, item⟩ : ∃ more, JsonText.value .compact 2 log.toValue.canonical =
          "\x7b" ++ more := JsonText.record_begins 2 _
      have empty : JsonText.value .compact 1
          (Value.list (([] : List ActionLog).map ActionLog.toValue)).canonical = "[]" := rfl
      rw [none, empty] at textA
      rw [logged, List.map_cons, list, item] at textB
      have texts := congrArg String.toList (textA.symm.trans (same.trans textB))
      simp at texts

end ExecutionResult

/-- The order of keys is seen where an object is looked for in a text: the note is copied with the
one mark and not with the other. -/
theorem searched_keys_are_seen :
    (copyPayload twoKeys .null).Keyed ∧
      (copyPayload twoKeys .null).Reordered (copyPayload twoKeysTurned .null) ∧
      ∃ result result',
        ((⟨.default, 1⟩ : Engine).run copyProgram (copyPayload twoKeys .null) .once).result =
          .ok result ∧
        ((⟨.default, 1⟩ : Engine).run copyProgram (copyPayload twoKeysTurned .null) .once).result =
          .ok result' ∧
        result.toValue.canonicalText ≠ result'.toValue.canonicalText := by
  obtain ⟨keyed, reordered⟩ := copyPayload_turned twoKeys_turned (.scalar rfl : Value.null.Turned _)
  have copied : copies twoKeys .null true = true := by
    simp only [copies, Engine.run, Engine.runWith, Engine.execute, Engine.context,
      copyProgram_sorted]
    decide +kernel
  have left : copies twoKeysTurned .null false = true := by
    simp only [copies, Engine.run, Engine.runWith, Engine.execute, Engine.context,
      copyProgram_sorted]
    decide +kernel
  obtain ⟨result, returned, some⟩ := eq_ok_of_returnsWith copied
  obtain ⟨result', returned', none⟩ := eq_ok_of_returnsWith left
  refine ⟨keyed, reordered, result, result', returned, returned', fun same => ?_⟩
  have nothing : result'.actions = [] := by simpa using none
  -- Equal texts would log equally much.
  have logged := ExecutionResult.actions_eq_nil_of_canonicalText nothing same.symm
  simp [logged] at some

end Rulebook
