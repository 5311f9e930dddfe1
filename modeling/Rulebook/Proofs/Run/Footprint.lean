import Rulebook.Proofs.Evaluate.Footprint
import Rulebook.Proofs.Run.Effect
import Rulebook.Proofs.State.Footprint

/-!
What actions read and write.

An action is planned from the facts that it reads and from what is held where it writes: on
stores that agree there the plan is the same (`Plan.ofAction_congr`). What is refused or written
to a field is among the paths that the action writes to.
-/

namespace Rulebook

/-! ### Paths -/

def Action.writes : Action → List String
  | .set target _ | .increment target _ | .append target _ => [target]
  | .route .. => [routeSlot]
  | .emit .. => []

def Action.reads : Action → List String
  | .set _ value => value.paths
  | .append target value => target :: value.paths
  | .increment target _ => [target]
  | .emit .. | .route .. => []

def Rule.writes (rule : Rule) : List String := rule.actions.flatMap Action.writes

def Rule.reads (rule : Rule) : List String :=
  rule.condition.paths ++ rule.actions.flatMap Action.reads

/-! ### Plans -/

section Actions

variable {catalog : Catalog} {s t : Store} {ruleId : String} {action : Action}

/-- An action makes the same plan where it finds the same facts. -/
theorem Plan.ofAction_congr (same : s.SameOn (action.reads ++ action.writes) t) :
    ofAction catalog s ruleId action = ofAction catalog t ruleId action := by
  have agree : ∀ path ∈ action.reads ++ action.writes, s.read path = t.read path :=
    fun path member => Store.read_congr (same path member)
  obtain ⟨operands, targets⟩ := List.forall_mem_append.mp agree
  cases action with
  | set target value =>
      rw [ofAction, ofAction, ofOperand, ofOperand, Operand.resolve_congr operands,
        targets target List.mem_cons_self]
  | append target value =>
      obtain ⟨_, operands⟩ := List.forall_mem_cons.mp operands
      rw [ofAction, ofAction, ofOperand, ofOperand, Operand.resolve_congr operands,
        targets target List.mem_cons_self]
  | increment target delta =>
      simp only [ofAction, targets target List.mem_cons_self]
  | emit event payload => rfl
  | route queue reason =>
      have route := same routeSlot List.mem_cons_self
      rw [Store.content_routeSlot, Store.content_routeSlot] at route
      rw [ofAction, ofAction, route]

theorem Plan.target_of_ofOperand {task target refused : String} {value : Operand}
    {apply : Value → Option Value × Value} {issue : Issue}
    (planned : ofOperand catalog s ruleId task target value apply = .ok (.refuse refused issue)) :
    refused = target := by
  rcases ofOperand_cases catalog s target value with
    blocked | checked | ⟨found, v, checked, resolved⟩
  · obtain ⟨_, refuses⟩ := @ofOperand_blocked catalog s ruleId task target value apply blocked
    cases refuses.symm.trans planned
    rfl
  · rw [ofOperand_interrupted checked] at planned
    cases planned
  · rw [ofOperand_eq_ok checked resolved] at planned
    cases planned

/-- What is refused is a write of the action. -/
theorem Plan.mem_writes_of_refuse {target : String} {issue : Issue}
    (planned : ofAction catalog s ruleId action = .ok (.refuse target issue)) :
    target ∈ action.writes := by
  cases action with
  | set goal value =>
      rw [ofAction_set] at planned
      rw [target_of_ofOperand planned]
      exact List.mem_cons_self
  | append goal value =>
      rw [ofAction_append] at planned
      rw [target_of_ofOperand planned]
      exact List.mem_cons_self
  | increment goal delta =>
      cases checked : catalog.checkIncrement goal with
      | error e =>
          rw [ofAction_increment_refused checked] at planned
          cases planned
          exact List.mem_cons_self
      | ok _ =>
          rw [ofAction_increment checked] at planned
          cases sum : delta.addTo ((s.read goal).getD .null) with
          | error e => simp [sum, Except.map] at planned
          | ok after => simp [sum, Except.map] at planned
  | emit event payload => cases planned
  | route queue reason => cases planned

/-- What is written to a field is the one write of the action. -/
theorem Writes.writes_eq {target : String} {before : Option Value} {after : Value}
    {issues : List Issue} (writes : Writes catalog s ruleId action target before after issues) :
    action.writes = [target] := by
  cases writes <;> rfl

theorem Writes.mem_writes {target : String} {before : Option Value} {after : Value}
    {issues : List Issue} (writes : Writes catalog s ruleId action target before after issues) :
    target ∈ action.writes := by
  rw [writes.writes_eq]
  exact List.mem_cons_self

end Actions

end Rulebook
