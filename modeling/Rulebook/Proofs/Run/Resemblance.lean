import Rulebook.Proofs.Evaluate.Reordered
import Rulebook.Proofs.Run.Course
import Rulebook.Proofs.Run.Keyed

/-!
Runs side by side.

What a run leaves resembles what another one leaves when the two read the same in canonical
form. On stores that are the same but for the order of keys an action plans the same, ends in the
same way, and leaves such stores again (`Action.apply_turned`). So do rules, passes and runs whose
conditions do not see that order.
-/

namespace Rulebook

/-! ### Outcomes -/

/-- The outcomes read the same in canonical form. -/
structure ActionOutcome.Resembles (a b : ActionOutcome) : Prop where
  trace : a.trace.toValue.canonical = b.trace.toValue.canonical
  diffs : a.diffs.map (·.toValue.canonical) = b.diffs.map (·.toValue.canonical)
  log : a.log.map (·.toValue.canonical) = b.log.map (·.toValue.canonical)
  warnings : a.warnings = b.warnings
  issues : a.issues = b.issues
  conflict : a.conflict = b.conflict
  mutated : a.mutated = b.mutated

theorem shown_turned {x y : Option Value} (pair : Option.Rel Value.Turned x y) :
    (shown x).Turned (shown y) := by
  cases pair with
  | none => exact .scalar rfl
  | some turned => exact turned

/-- Whether a write is a change is decided by equality, which is blind. -/
theorem isChange_turned {x y : Option Value} {v w : Value} (before : Option.Rel Value.Turned x y)
    (after : v.Turned w) : isChange x v = isChange y w := by
  cases before with
  | none => rfl
  | some turned =>
      exact congrArg (!·) (turned.reordered.strictEq_congr after.reordered turned.keyed after.keyed)

namespace Action

variable {action : Action} {live : Bool} {now : Writer}

theorem writeOutcome_resembles {path : String} {x y : Option Value} {v w : Value}
    {issues : List Issue} {conflict : Option String} (before : Option.Rel Value.Turned x y)
    (after : v.Turned w) :
    (action.writeOutcome live now path x v issues conflict).Resembles
      (action.writeOutcome live now path y w issues conflict) := by
  have earlier := (shown_turned before).canonical_written
  have later := after.canonical_written
  have changes := isChange_turned before after
  have diff : ∀ path, (StateDiff.mk path (shown x) v).toValue.canonical =
      (StateDiff.mk path (shown y) w).toValue.canonical :=
    fun path => Value.canonical_record_congr (by simp [earlier, later])
  refine ⟨?_, ?_, ?_, rfl, rfl, rfl, ?_⟩
  · exact Value.canonical_record_congr (by simp [writeOutcome, earlier, later])
  · simp only [writeOutcome, changes]
    split
    · rw [List.map_singleton, List.map_singleton, diff]
    · rfl
  · cases live with
    | false => rfl
    | true =>
        exact congrArg some (Value.canonical_record_congr (by simp [earlier, later]))
  · simp only [writeOutcome_mutated, changes]

theorem refusedOutcome_resembles {target : String} {v w : Value} {issue : Issue}
    (turned : v.Turned w) :
    (action.refusedOutcome now target v issue).Resembles
      (action.refusedOutcome now target w issue) := by
  have current := turned.canonical_written
  refine ⟨?_, rfl, rfl, rfl, rfl, rfl, rfl⟩
  exact Value.canonical_record_congr (by simp [refusedOutcome, current])

end Action

/-! ### Plans -/

/-- The plans do the same, with values that are the same but for the order of keys. -/
inductive Plan.Turned : Plan → Plan → Prop where
  | refuse (target : String) (issue : Issue) : Turned (.refuse target issue) (.refuse target issue)
  | field {target : String} {x y : Option Value} {v w : Value} {issues : List Issue} :
      Option.Rel Value.Turned x y → v.Turned w →
      Turned (.field target x v issues) (.field target y w issues)
  | route {x y : Option Value} {v w : Value} :
      Option.Rel Value.Turned x y → v.Turned w → Turned (.route x v) (.route y w)
  | event (name : String) (payload : Record) : Turned (.event name payload) (.event name payload)

/-- Sums are of numbers, which have no keys. -/
theorem Amount.addTo_turned (delta : Amount) {v w : Value} (turned : v.Turned w) :
    delta.addTo v = delta.addTo w := by
  cases turned.reordered <;> rfl

namespace Plan

/-- Lists that are appended to stay reorderings of each other. -/
theorem appended_turned {x y : Option Value} {v w : Value} (before : Option.Rel Value.Turned x y)
    (item : v.Turned w) :
    Option.Rel Value.Turned (appended x v).1 (appended y w).1 ∧
      (appended x v).2.Turned (appended y w).2 := by
  have one : (Value.list [v]).Turned (.list [w]) :=
    ⟨.list (List.forall_mem_singleton.mpr item.keyed), .list (.cons item.reordered .nil)⟩
  cases before with
  | none => exact ⟨.some (.refl (.list (List.forall_mem_nil _))), one⟩
  | @some a b turned =>
      obtain ⟨keyed, reordered⟩ := turned
      cases reordered with
      | scalar plain => cases a <;> cases plain <;> exact ⟨.some (.scalar rfl), one⟩
      | object keys each => exact ⟨.some ⟨keyed, .object keys each⟩, one⟩
      | @list xs ys items =>
          refine ⟨.some ⟨keyed, .list items⟩, ?_, ?_⟩
          · exact .list (List.forall_mem_append.mpr
              ⟨keyed.items, List.forall_mem_singleton.mpr item.keyed⟩)
          · exact .list (List.rel_append items (.cons item.reordered .nil))

theorem routed_turned {x y : Option Value} (before : Option.Rel Value.Turned x y) (queue : String)
    (reason : Option String) : (routed x queue reason).Turned (routed y queue reason) := by
  have text : (Value.ofText? reason).Turned (.ofText? reason) := by
    cases reason <;> exact .scalar rfl
  have base : ∀ {fs gs : List (Key × Value)}, (Value.object fs).Turned (.object gs) →
      (Value.object (Fields.set (.text "reason") (.ofText? reason)
        (Fields.set (.text "queue") (.text queue) fs))).Turned
      (.object (Fields.set (.text "reason") (.ofText? reason)
        (Fields.set (.text "queue") (.text queue) gs))) :=
    fun turned => (turned.set "queue" (.scalar rfl)).set "reason" text
  have empty : (Value.object []).Turned (.object []) := .refl .empty
  cases before with
  | none => exact base empty
  | @some a b turned =>
      obtain ⟨keyed, reordered⟩ := turned
      cases reordered with
      | scalar plain => cases a <;> cases plain <;> exact base empty
      | list => exact base empty
      | object keys each => exact base ⟨keyed, .object keys each⟩

section Stores

variable {catalog : Catalog} {s t : Store} (reordered : s.Reordered t)

include reordered

/-- A value that is written is resolved to a reordering. -/
theorem ofOperand_turned {ruleId task target : String} {value : Operand}
    {apply apply' : Value → Option Value × Value}
    (each : ∀ v w : Value, v.Turned w →
      Option.Rel Value.Turned (apply v).1 (apply' w).1 ∧ (apply v).2.Turned (apply' w).2) :
    Except.Rel Plan.Turned (ofOperand catalog s ruleId task target value apply)
      (ofOperand catalog t ruleId task target value apply') := by
  unfold ofOperand
  rcases checkWrite catalog target value with (e | _) | issue
  · exact .ok (.refuse _ _)
  · exact .error _
  · rcases value.resolve_reordered reordered with ⟨inS, inT⟩ | ⟨v, w, inS, inT, related, keyed⟩
    · rw [inS, inT]
      exact .ok (.refuse _ _)
    · rw [inS, inT]
      obtain ⟨before, after⟩ := each v w ⟨keyed, related⟩
      exact .ok (.field before after)

theorem read_turned (path : String) : Option.Rel Value.Turned (s.read path) (t.read path) :=
  Value.Turned.of_option (reordered.read path) fun _ found => reordered.left.read found

/-- Plans on reordered stores resemble each other, kind by kind. -/
theorem ofAction_turned (ruleId : String) (action : Action) :
    Except.Rel Plan.Turned (ofAction catalog s ruleId action)
      (ofAction catalog t ruleId action) := by
  cases action with
  | set target value =>
      rw [ofAction_set, ofAction_set]
      exact ofOperand_turned reordered fun v w turned => ⟨read_turned reordered target, turned⟩
  | append target value =>
      rw [ofAction_append, ofAction_append]
      exact ofOperand_turned reordered fun v w turned =>
        appended_turned (read_turned reordered target) turned
  | increment target delta =>
      -- Numbers have no keys, so the sum is the same on both.
      have before := read_turned reordered target
      have sum : delta.addTo ((s.read target).getD .null) =
          delta.addTo ((t.read target).getD .null) :=
        delta.addTo_turned (shown_turned before)
      cases checked : catalog.checkIncrement target with
      | error e =>
          rw [ofAction_increment_refused checked, ofAction_increment_refused checked]
          exact .ok (.refuse _ _)
      | ok _ =>
          rw [ofAction_increment checked, ofAction_increment checked, sum]
          refine (Except.Rel.refl _).map fun after _ made same => ?_
          subst same
          exact .field before (.scalar (Value.isScalar_of_isNumber (Amount.isNumber_of_addTo made)))
  | emit name payload => exact .ok (.event name payload)
  | route queue reason =>
      have before : Option.Rel Value.Turned s.readRoute t.readRoute :=
        Value.Turned.of_option reordered.readRoute fun _ found =>
          reordered.left.values _ (Fields.get?_mem found)
      exact .ok (.route before (routed_turned before queue reason))

end Stores

end Plan

/-! ### Actions -/

/-- The same writers, and facts that are the same but for the order of keys. -/
structure Workspace.Turned (a b : Workspace) : Prop where
  store : a.store.Reordered b.store
  tracker : a.tracker = b.tracker

namespace Action

variable {catalog : Catalog} {live : Bool} {action : Action} {now : Writer} {a b : Workspace}

/-- What was planned is carried out alike. -/
theorem commit_turned {plan plan' : Plan} (turned : a.Turned b)
    (planned : Plan.ofAction catalog a.store now.ruleId action = .ok plan)
    (plans : plan.Turned plan') :
    Except.Rel (fun x y => x.1.Resembles y.1 ∧ x.2.Turned y.2) (action.commit live a now plan)
      (action.commit live b now plan') := by
  cases plans with
  | refuse target issue =>
      have current := shown_turned (Plan.read_turned turned.store target)
      exact .ok ⟨refusedOutcome_resembles current, turned⟩
  | event name payload => exact .ok ⟨⟨rfl, rfl, rfl, rfl, rfl, rfl, rfl⟩, turned⟩
  | route before after =>
      unfold commit
      rw [turned.tracker]
      refine .ok ⟨writeOutcome_resembles before after, ?_, rfl⟩
      cases live with
      | false => exact turned.store
      | true => exact turned.store.writeRoute after.reordered after.keyed
  | field before after =>
      obtain ⟨entity, name, split⟩ := (Writes.of_planned planned).splits
      rw [commit_field split, commit_field split, turned.tracker]
      refine .ok ⟨writeOutcome_resembles before after, ?_, rfl⟩
      cases live with
      | false => exact turned.store
      | true => exact turned.store.writeField entity name after.reordered after.keyed

/-- An action does the same on workspaces that differ in the order of keys only. -/
theorem apply_turned (turned : a.Turned b) :
    Except.Rel (fun x y => x.1.Resembles y.1 ∧ x.2.Turned y.2) (action.apply catalog live a now)
      (action.apply catalog live b now) :=
  (Plan.ofAction_turned turned.store now.ruleId action).bind fun _ _ planned plans =>
    commit_turned turned planned plans

end Action

/-! ### Rules -/

/-- As much was done, on facts that are the same but for the order of keys. -/
structure Progress.Turned (p q : Progress) : Prop where
  workspace : p.workspace.Turned q.workspace
  actionCount : p.actionCount = q.actionCount
  firings : p.firings = q.firings

/-- The steps read the same in canonical form, and so do the outcomes that they hold. -/
structure RuleStep.Resembles (a b : RuleStep) : Prop where
  trace : a.trace.toValue.canonical = b.trace.toValue.canonical
  outcomes : List.Forall₂ ActionOutcome.Resembles a.outcomes b.outcomes

section Outcomes

variable {xs ys : List ActionOutcome} (same : List.Forall₂ ActionOutcome.Resembles xs ys)

include same

theorem ActionOutcome.diffs_eq :
    (xs.flatMap (·.diffs)).map (·.toValue.canonical) =
      (ys.flatMap (·.diffs)).map (·.toValue.canonical) := by
  rw [List.map_flatMap, List.map_flatMap]
  exact flatMap_eq_of_forall₂ same fun _ _ one => one.diffs

theorem ActionOutcome.logs_eq :
    (xs.filterMap (·.log)).map (·.toValue.canonical) =
      (ys.filterMap (·.log)).map (·.toValue.canonical) := by
  rw [List.map_filterMap, List.map_filterMap]
  exact filterMap_eq_of_forall₂ same fun _ _ one => one.log

/-- A rule that has run leaves steps that resemble each other. -/
theorem stepOf_resembles (context : RunContext) (number : Nat) (rule : Rule)
    {why why' : ConditionTrace} (whys : why.Resembles why') :
    (context.stepOf number rule why xs).Resembles (context.stepOf number rule why' ys) := by
  have actions : (Value.list ((xs.map (·.trace)).map ActionTrace.toValue)).canonical =
      (Value.list ((ys.map (·.trace)).map ActionTrace.toValue)).canonical := by
    rw [List.map_map, List.map_map]
    exact Value.canonical_list_of_forall₂ same fun _ _ one => one.trace
  have diffs : (Value.list ((xs.flatMap (·.diffs)).map StateDiff.toValue)).canonical =
      (Value.list ((ys.flatMap (·.diffs)).map StateDiff.toValue)).canonical := by
    refine Value.canonical_list_congr ?_
    rw [List.map_map, List.map_map]
    exact ActionOutcome.diffs_eq same
  have warnings := flatMap_eq_of_forall₂ same fun _ _ one => one.warnings
  refine ⟨Value.canonical_record_congr ?_, same⟩
  simp only [RunContext.stepOf, ranTrace, List.map_cons, List.map_nil, whys.result, whys.text,
    actions, diffs, warnings]

end Outcomes

theorem skippedTrace_resembles (number : Nat) (rule : Rule) {why why' : ConditionTrace}
    (whys : why.Resembles why') :
    RuleStep.Resembles ⟨skippedTrace number rule why, []⟩ ⟨skippedTrace number rule why', []⟩ :=
  ⟨Value.canonical_record_congr (by simp [skippedTrace, whys.result, whys.text]), .nil⟩

end Rulebook
