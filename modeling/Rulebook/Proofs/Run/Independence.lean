import Rulebook.Proofs.Run.Plain
import Rulebook.Proofs.Run.Retelling

/-!
Independent rules.

Two rules are independent when neither writes to a cell that the other reads or writes. What
the one leaves behind is then not seen by the other, which does the same before it and after it
(`RuleRan.sameOn_footprint`), and the writes of both commute up to the order of keys: the rules
can be run in either order (`independent_rules_commute`).
-/

namespace Rulebook

/-- No path of the first list is in the cell of one of the second. -/
def Apart (paths others : List String) : Prop :=
  ∀ path ∈ paths, ∀ other ∈ others, cellOf path ≠ cellOf other

instance (paths others : List String) : Decidable (Apart paths others) :=
  inferInstanceAs (Decidable (∀ path ∈ paths, ∀ other ∈ others, cellOf path ≠ cellOf other))

/-- Neither rule writes to a cell that the other reads or writes. -/
structure Rule.Independent (first second : Rule) : Prop where
  unseen : Apart first.writes (second.reads ++ second.writes)
  unseeing : Apart second.writes (first.reads ++ first.writes)

/-! ### What a rule writes -/

theorem Action.path_of_writeOutcome {action : Action} {live : Bool} {now : Writer} {path : String}
    {before : Option Value} {after : Value} {issues : List Issue} {conflict : Option String} :
    ∀ log ∈ (action.writeOutcome live now path before after issues conflict).log,
      log.path = some path := by
  cases live <;> simp [writeOutcome]

/-- An action logs no path but those that it writes to. -/
theorem RunContext.gives_logged (context : RunContext) (ruleId : String) (action : Action) :
    context.Gives (fun outcome => ∀ log ∈ outcome.log, ∀ path ∈ log.path, path ∈ action.writes)
      ruleId action := by
  intro before outcome workspace acted log logged path written
  cases Action.apply_eq_ok_iff.mp acted with
  | refused => cases logged
  | event =>
      have none : log.path = none := by
        cases live : context.options.enableActions <;> simp [Action.eventOutcome, live] at logged
        rw [← logged]
      cases none.symm.trans written
  | field planned _ =>
      cases (Action.path_of_writeOutcome log logged).symm.trans written
      exact (Writes.of_planned planned).mem_writes
  | route planned =>
      cases (Action.path_of_writeOutcome log logged).symm.trans written
      cases Planned.of_eq planned
      exact List.mem_cons_self

section Rules

variable {context : RunContext} {rule : Rule} {before after : Progress} {why : ConditionTrace}
  {outcomes : List ActionOutcome}

/-- What a rule wrote is in its footprint. -/
theorem RuleRan.mem_writes (ran : RuleRan context rule before why outcomes after) :
    ∀ write ∈ writesOf outcomes, write.1 ∈ rule.writes := by
  have logged : ∀ outcome ∈ outcomes, ∀ log ∈ outcome.log, ∀ path ∈ log.path,
      path ∈ rule.writes := by
    refine ran.forall_outcome fun action member => ?_
    intro start outcome workspace acted log inside path written
    exact List.mem_flatMap.mpr ⟨action, member,
      context.gives_logged rule.id action start outcome workspace acted log inside path written⟩
  intro write member
  obtain ⟨log, journalled, wrote⟩ := List.mem_filterMap.mp member
  obtain ⟨outcome, among, inside⟩ := List.mem_filterMap.mp journalled
  obtain ⟨path, written, rfl⟩ := Option.map_eq_some_iff.mp wrote
  exact logged outcome among log inside path written

/-- A rule leaves the cells as they were that it does not write to. -/
theorem RuleRan.sameOn_of_apart (live : context.options.enableActions = true)
    (ran : RuleRan context rule before why outcomes after) {paths : List String}
    (apart : Apart rule.writes paths) :
    after.workspace.store.SameOn paths before.workspace.store := by
  rw [(ran.journalled live).store_eq]
  exact Store.sameOn_putAll _ fun write member => apart write.1 (ran.mem_writes write member)

end Rules

/-! ### Either order -/

/-- Independent rules can be run in either order. Where the one order returns, so does the
other; the facts at the end are the same up to the order of keys, and both rules tell the same,
but for the numbers of their actions. -/
theorem independent_rules_commute (context : RunContext) (first second : Rule) (number : Nat)
    (start middle final : Progress) (one two : RuleStep) (onward onward' : Continuation)
    (live : context.options.enableActions = true) (independent : first.Independent second)
    (ranFirst : (runRule context number first start).result = .ok (one, onward, middle))
    (ranSecond : (runRule context number second middle).result = .ok (two, onward', final)) :
    ∃ two' onward₂ middle' one' onward₁ final',
      (runRule context number second start).result = .ok (two', onward₂, middle') ∧
      (runRule context number first middle').result = .ok (one', onward₁, final') ∧
      final.workspace.store.SameFacts final'.workspace.store ∧
      one.trace.Retold one'.trace ∧ two.trace.Retold two'.trace := by
  obtain ⟨why, outcomes, ran, rfl, rfl⟩ := runRule_eq_ok_iff.mp ranFirst
  obtain ⟨why₂, outcomes₂, ran₂, rfl, rfl⟩ := runRule_eq_ok_iff.mp ranSecond
  -- the second rule does not see what the first has written, so it can go first
  obtain ⟨outcomes₂', middle', ran₂', retold₂⟩ :=
    ran₂.retold live (ran.sameOn_of_apart live independent.unseen)
  -- and the first does not see what the second has written
  obtain ⟨outcomes', final', ran', retold⟩ :=
    ran.retold live (ran₂'.sameOn_of_apart live independent.unseeing).symm
  have apart : ∀ write ∈ writesOf outcomes, ∀ other ∈ writesOf outcomes₂,
      cellOf write.1 ≠ cellOf other.1 := by
    intro write member other member₂
    exact independent.unseen write.1 (ran.mem_writes write member) other.1
      (List.mem_append_right _ (ran₂.mem_writes other member₂))
  have facts : final.workspace.store.SameFacts final'.workspace.store := by
    rw [(ran₂.journalled live).store_eq, (ran.journalled live).store_eq,
      (ran'.journalled live).store_eq, (ran₂'.journalled live).store_eq,
      ← writesOf_retold retold, ← writesOf_retold retold₂]
    exact Store.putAll_comm _ apart
  exact ⟨_, _, middle', _, _, final', runRule_eq_ok_iff.mpr ⟨why₂, outcomes₂', ran₂', rfl, rfl⟩,
    runRule_eq_ok_iff.mpr ⟨why, outcomes', ran', rfl, rfl⟩, facts,
    RunContext.stepOf_retold retold number first why,
    RunContext.stepOf_retold retold₂ number second why₂⟩

def countRule : Rule :=
  .plain "count" 1 (.not (.present ⟨"box.label", none⟩)) [.increment "box.count" (.int 1)] []

/-- Marks a box without a size, and sends it on. -/
def sendRule : Rule :=
  .plain "send" 1 (.present ⟨"box.size", none⟩) []
    [.append "box.marks" (.literal (.text "sent") none), .route "later" none]

def boxContext : RunContext :=
  { catalog := .ofProgram (.plain "box" [("count", .number), ("marks", .string)] [])
    rules := [], defaultMode := .allMatches, options := .once }

/-- The box is no object at first: whichever rule comes first makes it one. -/
theorem box_rules_commute :
    boxContext.options.enableActions = true ∧ countRule.Independent sendRule ∧
    ∃ one onward middle two onward' final,
      (runRule boxContext 1 countRule (.start ⟨[("box", .int 7)]⟩)).result =
        .ok (one, onward, middle) ∧
      (runRule boxContext 1 sendRule middle).result = .ok (two, onward', final) ∧
      ∃ two' onward₂ middle' one' onward₁ final',
        (runRule boxContext 1 sendRule (.start ⟨[("box", .int 7)]⟩)).result =
          .ok (two', onward₂, middle') ∧
        (runRule boxContext 1 countRule middle').result = .ok (one', onward₁, final') ∧
        final.workspace.store.SameFacts final'.workspace.store ∧
        one.trace.Retold one'.trace ∧ two.trace.Retold two'.trace := by
  have returns : returnsWith (fun ran =>
      returnsWith (fun _ => true) (runRule boxContext 1 sendRule ran.2.2).result)
      (runRule boxContext 1 countRule (.start ⟨[("box", .int 7)]⟩)).result = true := by
    decide +kernel
  have independent : countRule.Independent sendRule := ⟨by decide +kernel, by decide +kernel⟩
  obtain ⟨⟨one, onward, middle⟩, ranFirst, more⟩ := eq_ok_of_returnsWith returns
  obtain ⟨⟨two, onward', final⟩, ranSecond, _⟩ := eq_ok_of_returnsWith more
  exact ⟨rfl, independent, one, onward, middle, two, onward', final, ranFirst, ranSecond,
    independent_rules_commute boxContext countRule sendRule 1 _ middle final one two onward onward'
      rfl independent ranFirst ranSecond⟩

end Rulebook
