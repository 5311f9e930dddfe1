import Rulebook.Proofs.Run.Shape

/-!
The passes of a trace.

Every entry carries the number of its pass, so the trace of a run falls apart into the blocks
of its passes again: the entries with the number of a pass are the block of that pass.
-/

namespace Rulebook

def Execution.passEntries (execution : Execution) (number : Nat) : List RuleTrace :=
  (execution.steps.map (·.trace)).filter (·.passNumber == number)

def ExecutionResult.passEntries (result : ExecutionResult) (number : Nat) : List RuleTrace :=
  result.trace.filter (·.passNumber == number)

section Numbers

variable {context : RunContext} {number : Nat}

theorem PassRan.passNumber_eq {rules : List Rule} {before after : Progress} {pass : Pass}
    (ran : PassRan context number rules before pass after) :
    ∀ step ∈ pass.steps, step.trace.passNumber = number :=
  ran.forall_mem (fun _ _ _ => rfl) fun _ _ => rfl

theorem PassRan.filter_block {rules : List Rule} {before after : Progress} {pass : Pass}
    (ran : PassRan context number rules before pass after) :
    pass.block.filter (·.passNumber == number) = pass.block := by
  refine List.filter_eq_self.mpr fun entry member => ?_
  obtain ⟨step, inside, rfl⟩ := List.mem_map.mp member
  exact beq_iff_eq.mpr (ran.passNumber_eq step inside)

theorem PassRan.filter_block_of_ne {rules : List Rule} {before after : Progress} {pass : Pass}
    (ran : PassRan context number rules before pass after) {other : Nat}
    (differs : other ≠ number) : pass.block.filter (·.passNumber == other) = [] := by
  refine List.filter_eq_nil_iff.mpr fun entry member => ?_
  obtain ⟨step, inside, rfl⟩ := List.mem_map.mp member
  rw [ran.passNumber_eq step inside, beq_iff_eq]
  exact differs.symm

/-- A run has no entries for the passes before it. -/
theorem RunRan.passEntries_of_lt {before : Progress} {execution : Execution}
    (ran : RunRan context number before execution) {earlier : Nat} (less : earlier < number) :
    execution.passEntries earlier = [] := by
  induction ran with
  | last pass _ => exact pass.filter_block_of_ne (Nat.ne_of_lt less)
  | again pass _ _ ih =>
      rw [Execution.passEntries, List.map_append, List.filter_append]
      exact List.append_eq_nil_iff.mpr
        ⟨pass.filter_block_of_ne (Nat.ne_of_lt less), ih (Nat.lt_succ_of_lt less)⟩

/-- The first pass of a run that goes on leaves its block, and the later ones theirs. -/
theorem RunRan.passEntries_again {before middle : Progress} {pass : Pass} {execution : Execution}
    (ran : PassRan context number context.rules before pass middle)
    (later : RunRan context (number + 1) middle execution) (k : Nat) :
    ({ execution with steps := pass.steps ++ execution.steps } : Execution).passEntries k =
      if k = number then pass.block else execution.passEntries k := by
  have parts : ({ execution with steps := pass.steps ++ execution.steps } :
      Execution).passEntries k =
        pass.block.filter (·.passNumber == k) ++ execution.passEntries k := by
    rw [Execution.passEntries, List.map_append, List.filter_append]
    rfl
  rw [parts]
  by_cases same : k = number
  · subst same
    rw [if_pos rfl, ran.filter_block, later.passEntries_of_lt (Nat.lt_succ_self _),
      List.append_nil]
  · rw [if_neg same, ran.filter_block_of_ne same, List.nil_append]

end Numbers

end Rulebook
