import Mathlib.Algebra.Group.Int.Defs
import Rulebook.Proofs.Run.Effect
import Rulebook.Proofs.Run.Firings
import Rulebook.Proofs.Run.Plain
import Rulebook.Proofs.Value.Equality

/-!
When a looping run ends.

A run loops until a pass changes nothing, is stopped, or reaches the cap on firings. The
cap counts matches only, so it bounds the passes in which some rule matches and no others
(`Made.quiet_from`). Actions of rules that do not match can change the facts in every pass,
and then no condition ever ends the run: `run_returns_iff` says that this, and an
interrupted pass, are the only ways not to end, and `unmatched_growth_never_ends` shows a
program that goes this way.
-/

namespace Rulebook

/-! ### The passes that a run makes -/

/-- The state before pass `n + 1`, where the first `n` passes were each followed by another. -/
inductive Reached (context : RunContext) (start : Progress) : Nat → Progress → Prop where
  | start : Reached context start 0 start
  | again {n before pass after} :
      Reached context start n before →
      (runRules context (n + 1) context.rules before).result = .ok (pass, after) →
      pass.continues context.options = true →
      Reached context start (n + 1) after

/-- The run makes pass `n + 1`, which ends in this way. -/
def Made (context : RunContext) (start : Progress) (n : Nat) (pass : Pass) (after : Progress) :
    Prop :=
  ∃ before, Reached context start n before ∧
    (runRules context (n + 1) context.rules before).result = .ok (pass, after)

section Passes

variable {context : RunContext} {start : Progress}

theorem Reached.unique {n : Nat} {p q : Progress} (first : Reached context start n p)
    (second : Reached context start n q) : p = q := by
  induction first generalizing q with
  | start => cases second; rfl
  | again _ ran _ ih =>
      cases second with
      | again earlier ran' _ =>
          rw [ih earlier, ran'] at ran
          cases ran
          rfl

theorem Made.unique {n : Nat} {pass pass' : Pass} {p q : Progress}
    (first : Made context start n pass p) (second : Made context start n pass' q) :
    pass = pass' ∧ p = q := by
  obtain ⟨before, reached, ran⟩ := first
  obtain ⟨before', reached', ran'⟩ := second
  rw [reached.unique reached', ran'] at ran
  cases ran
  exact ⟨rfl, rfl⟩

theorem Made.reached {n : Nat} {pass : Pass} {after : Progress}
    (made : Made context start n pass after) (continues : pass.continues context.options = true) :
    Reached context start (n + 1) after := by
  obtain ⟨before, reached, ran⟩ := made
  exact .again reached ran continues

/-- Every earlier pass was made and followed by another. -/
theorem Reached.earlier {n m : Nat} {before : Progress} (reached : Reached context start n before)
    (less : m < n) : ∃ pass after, Made context start m pass after ∧
      pass.continues context.options = true := by
  induction reached with
  | start => omega
  | @again n before pass after earlier ran continues ih =>
      rcases Nat.lt_succ_iff_lt_or_eq.mp less with further | rfl
      · exact ih further
      · exact ⟨pass, after, ⟨before, earlier, ran⟩, continues⟩

/-- The count of firings never falls. -/
theorem Reached.firings_le {n m : Nat} {p q : Progress} (first : Reached context start n p)
    (second : Reached context start m q) (le : n ≤ m) : p.firings ≤ q.firings := by
  induction second with
  | start =>
      obtain rfl : n = 0 := by omega
      exact Nat.le_of_eq (congrArg _ (first.unique .start))
  | @again m before pass after earlier ran continues ih =>
      rcases Nat.le_succ_iff.mp le with further | rfl
      · rw [(runRules_eq_ok_iff.mp ran).firings_eq]
        exact Nat.le_add_right_of_le (ih further)
      · exact Nat.le_of_eq (congrArg _ (first.unique (.again earlier ran continues)))

/-- A run that returns has made a pass that no other follows. -/
theorem RunRan.made {number : Nat} {before : Progress} {execution : Execution}
    (ran : RunRan context number before execution) {n : Nat} (place : number = n + 1)
    (reached : Reached context start n before) :
    ∃ m pass after, Made context start m pass after ∧
      pass.continues context.options = false := by
  induction ran generalizing n with
  | last ran ends =>
      subst place
      exact ⟨n, _, _, ⟨_, reached, runRules_eq_ok_iff.mpr ran⟩, ends⟩
  | again ran continues _ ih =>
      subst place
      exact ih rfl (.again reached (runRules_eq_ok_iff.mpr ran) continues)

/-- What runs on from a state that is reached runs from the start. -/
theorem Reached.ran {n : Nat} {before : Progress} (reached : Reached context start n before)
    {execution : Execution} (ran : RunRan context (n + 1) before execution) :
    ∃ whole, RunRan context 1 start whole := by
  induction reached generalizing execution with
  | start => exact ⟨execution, ran⟩
  | again _ passRan continues ih => exact ih (.again (runRules_eq_ok_iff.mp passRan) continues ran)

end Passes

/-- A run returns, if it is allowed enough passes, when some pass is the last. -/
theorem returns_iff_last_pass (engine : Engine) (program : Program) (store : Store)
    (options : ExecutionOptions) :
    (∃ limit execution, (({ engine with passLimit := limit } : Engine).execute program store
        options).result = .ok execution) ↔
      ∃ n pass after, Made (engine.context program options) (.start store) n pass after ∧
        pass.continues options = false := by
  simp only [Engine.execute_eq_ok_iff]
  constructor
  · rintro ⟨limit, execution, ran, _⟩
    exact ran.made rfl .start
  · rintro ⟨n, pass, after, ⟨before, reached, ran⟩, ends⟩
    obtain ⟨whole, ran⟩ := reached.ran (.last (runRules_eq_ok_iff.mp ran) ends)
    exact ⟨whole.passes, whole, ran, Nat.le_refl _⟩

/-! ### The cap -/

section Cap

variable {context : RunContext} {start : Progress}

/-- Where all passes are made, only finitely many of them fire: each one that does takes
the count further and leaves it below the cap. -/
theorem Made.quiet_from
    (endless : ∀ n, ∃ pass after, Made context start n pass after ∧
      pass.continues context.options = true)
    (room n : Nat) {before : Progress} (reached : Reached context start n before)
    (enough : context.options.maxRuleFirings ≤ before.firings + room) :
    ∃ k, ∀ m, k ≤ m → ∃ pass after, Made context start m pass after ∧
      pass.continues context.options = true ∧ pass.fires = false := by
  induction room generalizing n before with
  | zero =>
      refine ⟨n, fun m le => ?_⟩
      obtain ⟨pass, after, ⟨first, reachedFirst, ran⟩, continues⟩ := endless m
      refine ⟨pass, after, ⟨first, reachedFirst, ran⟩, continues, ?_⟩
      by_contra fires
      have below := (runRules_eq_ok_iff.mp ran).below_cap
        (Pass.continues_iff.mp continues).2.2 (by simpa using fires)
      have more := reached.firings_le (.again reachedFirst ran continues) (by omega)
      omega
  | succ room ih =>
      by_cases quiet : ∀ m, n ≤ m → ∃ pass after, Made context start m pass after ∧
          pass.continues context.options = true ∧ pass.fires = false
      · exact ⟨n, quiet⟩
      · push Not at quiet
        obtain ⟨m, le, loud⟩ := quiet
        obtain ⟨pass, after, ⟨first, reachedFirst, ran⟩, continues⟩ := endless m
        have fires := loud pass after ⟨first, reachedFirst, ran⟩ continues
        have positive := Pass.firings_pos_iff.mpr (by simpa using fires)
        have counted := (runRules_eq_ok_iff.mp ran).firings_eq
        -- A pass that fires uses up some of what is left below the cap.
        have more := reached.firings_le reachedFirst le
        exact ih (m + 1) (.again reachedFirst ran continues) (by omega)

end Cap

/-! ### When a run ends -/

section Last

variable {context : RunContext} {start : Progress}

/-- No state is reached after the last pass. -/
theorem Made.reached_le {last n : Nat} {pass : Pass} {after before : Progress}
    (made : Made context start last pass after) (ends : pass.continues context.options = false)
    (reached : Reached context start n before) : n ≤ last := by
  by_contra more
  obtain ⟨pass', after', made', continues⟩ := reached.earlier (Nat.lt_of_not_le more)
  obtain ⟨rfl, rfl⟩ := made.unique made'
  exact Bool.false_ne_true (ends.symm.trans continues)

/-- No pass is interrupted where there is a last one. -/
theorem Made.uninterrupted {last n : Nat} {pass : Pass} {after before : Progress}
    {interruption : Interruption} (made : Made context start last pass after)
    (ends : pass.continues context.options = false) (reached : Reached context start n before) :
    (runRules context (n + 1) context.rules before).result ≠ .error interruption := by
  intro failed
  obtain ⟨lastBefore, lastReached, ran⟩ := made
  rcases Nat.lt_or_eq_of_le (Made.reached_le ⟨lastBefore, lastReached, ran⟩ ends reached) with
    less | rfl
  · obtain ⟨pass', after', ⟨before', reached', ran'⟩, _⟩ := lastReached.earlier less
    rw [reached.unique reached'] at failed
    exact nomatch failed.symm.trans ran'
  · rw [reached.unique lastReached] at failed
    exact nomatch failed.symm.trans ran

/-- Where no pass is interrupted and none is the last, every pass is made. -/
theorem Reached.endless
    (uninterrupted : ∀ n before interruption, Reached context start n before →
      (runRules context (n + 1) context.rules before).result ≠ .error interruption)
    (noLast : ∀ n pass after, Made context start n pass after →
      pass.continues context.options = true) (n : Nat) :
    ∃ before, Reached context start n before := by
  induction n with
  | zero => exact ⟨start, .start⟩
  | succ n ih =>
      obtain ⟨before, reached⟩ := ih
      cases ran : (runRules context (n + 1) context.rules before).result with
      | error e => exact absurd ran (uninterrupted n before e reached)
      | ok made =>
          obtain ⟨pass, after⟩ := made
          exact ⟨after, .again reached ran (noLast n pass after ⟨before, reached, ran⟩)⟩

end Last

/-- A run ends exactly when no pass of it is interrupted and it does not come to a point
from which on every pass changes the facts without any rule matching. -/
theorem run_returns_iff (engine : Engine) (program : Program) (store : Store)
    (options : ExecutionOptions) :
    (∃ limit execution, (({ engine with passLimit := limit } : Engine).execute program store
        options).result = .ok execution) ↔
      (∀ n before interruption,
        Reached (engine.context program options) (.start store) n before →
        (runRules (engine.context program options) (n + 1) (sortRules program.rules)
          before).result ≠ .error interruption) ∧
      ¬ ∃ k, ∀ n, k ≤ n → ∃ pass after,
        Made (engine.context program options) (.start store) n pass after ∧
          pass.continues options = true ∧ pass.fires = false := by
  rw [returns_iff_last_pass]
  constructor
  · rintro ⟨last, pass, after, made, ends⟩
    constructor
    · intro n before interruption reached
      exact made.uninterrupted ends reached
    · rintro ⟨k, forEver⟩
      obtain ⟨pass', after', later, continues, _⟩ := forEver (k + last) (Nat.le_add_right _ _)
      have := made.reached_le ends (later.reached continues)
      omega
  · rintro ⟨uninterrupted, notForEver⟩
    by_contra noLast
    have goesOn : ∀ n pass after,
        Made (engine.context program options) (.start store) n pass after →
          pass.continues (engine.context program options).options = true := by
      intro n pass after made
      by_contra ends
      exact noLast ⟨n, pass, after, made, Bool.eq_false_iff.mpr ends⟩
    -- Passes that go on for ever fire only finitely often, so at some point none fires any more.
    refine notForEver (Made.quiet_from (fun n => ?_) options.maxRuleFirings.toNat 0 .start ?_)
    · obtain ⟨before, later⟩ := Reached.endless uninterrupted goesOn (n + 1)
      exact later.earlier (Nat.lt_succ_self n)
    · have := Int.self_le_toNat options.maxRuleFirings
      simp only [Engine.context, Progress.start]
      omega

/-! ### A run without end -/

/-- Passes that change the facts and keep a property of the state, which gives the next
pass the same chance, use up every limit. -/
theorem runPasses_unsettled {context : RunContext} {holds : Progress → Prop}
    (keeps : ∀ number before, holds before → ∃ pass after,
      PassRan context number context.rules before pass after ∧
        pass.continues context.options = true ∧ holds after)
    (limit number : Nat) {before : Progress} (held : holds before) :
    (runPasses context limit number before).result = .error .unsettled := by
  induction limit generalizing number before with
  | zero => rfl
  | succ limit ih =>
      obtain ⟨pass, after, ran, continues, later⟩ := keeps number before held
      simp only [runPasses, Recorded.result_bind, runRules_eq_ok_iff.mpr ran, Except.bind,
        if_pos continues, ih (number + 1) later]

/-- A rule that never matches, and grows a meter while nothing stops it. -/
def meterRule (growth : List Action) : Rule :=
  .plain "tick" 0 (.present ⟨"meter.stop", none⟩) [] growth

def meterProgram (growth : List Action) : Program :=
  .plain "meter" [("count", .number), ("share", .number)] [meterRule growth]

def meterAt (n : Int) : Store := ⟨[("meter", .object [(.text "count", .int n)])]⟩

/-- One firing is enough to end the run. -/
def untilSettled : ExecutionOptions := .looping 1

def steadyGrowth : List Action := [.increment "meter.count" (.int 1)]

/-- An increment by a huge integer, and a sum that is taken with a floating point number. -/
def steepGrowth : List Action :=
  [.increment "meter.count" (.int (10 ^ 308)), .set "meter.share" (.fact ⟨"meter.count", none⟩),
   .increment "meter.share" (.float (.ofQuotient false Binary64.unitsPerOne 2))]

def meterContext (growth : List Action) : RunContext :=
  Engine.context ⟨.default, 0⟩ (meterProgram growth) untilSettled

theorem meterContext_rules (growth : List Action) :
    (meterContext growth).rules = [meterRule growth] := by
  simp [meterContext, Engine.context, meterProgram, Program.plain, sortRules]

theorem splitPath?_meterCount : splitPath? "meter.count" = some ("meter", "count") := by
  decide +kernel

theorem steadyGrowth_planned (n : Int) :
    Plan.ofAction (meterContext steadyGrowth).catalog (meterAt n) "tick"
        (.increment "meter.count" (.int 1)) =
      .ok (.field "meter.count" (some (.int n)) (.int (n + 1)) []) := rfl

/-- Each pass of steady growth is complete and changes the meter. -/
theorem steadyGrowth_pass (number : Nat) (before : Progress)
    (meter : ∃ n, before.workspace.store = meterAt n) :
    ∃ pass after, PassRan (meterContext steadyGrowth) number (meterContext steadyGrowth).rules
        before pass after ∧
      pass.continues untilSettled = true ∧ ∃ n, after.workspace.store = meterAt n := by
  obtain ⟨n, same⟩ := meter
  obtain ⟨⟨store, tracker⟩, actionCount, firings⟩ := before
  obtain rfl : store = meterAt n := same
  rw [meterContext_rules]
  have acted : (meterContext steadyGrowth).act "tick" ⟨⟨meterAt n, tracker⟩, actionCount, firings⟩
      (.increment "meter.count" (.int 1)) = _ :=
    Action.apply_eq_ok_iff.mpr (.field (steadyGrowth_planned n) splitPath?_meterCount)
  refine ⟨_, _, .next ⟨rfl, .step acted (.done _)⟩ rfl (.done _), ?_, n + 1, rfl⟩
  have grows : n ≠ n + 1 := by omega
  refine Pass.continues_iff.mpr ⟨rfl, ?_, rfl⟩
  simp [Pass.mutated, RuleStep.mutated, RunContext.stepOf, Action.writeOutcome_mutated, isChange,
    meterContext, Engine.context, untilSettled, ExecutionOptions.looping, grows]

/-- The first pass of steep growth is complete and changes the meter, and the second one
takes the sum of an integer beyond the range of floating point numbers. -/
theorem steepGrowth_passes :
    ∃ pass middle, (runRules (meterContext steepGrowth) 1 [meterRule steepGrowth]
        (.start (meterAt 0))).result = .ok (pass, middle) ∧
      pass.continues untilSettled = true ∧
      (runRules (meterContext steepGrowth) 2 [meterRule steepGrowth] middle).result =
        .error .sumOutOfRange := by
  have evaluated : returnsWith (fun first => first.1.continues untilSettled &&
        endsWith .sumOutOfRange
          (runRules (meterContext steepGrowth) 2 [meterRule steepGrowth] first.2).result)
      (runRules (meterContext steepGrowth) 1 [meterRule steepGrowth] (.start (meterAt 0))).result =
        true := by decide +kernel
  obtain ⟨⟨pass, middle⟩, ran, passes⟩ := eq_ok_of_returnsWith evaluated
  obtain ⟨continues, second⟩ := Bool.and_eq_true_iff.mp passes
  exact ⟨pass, middle, ran, continues, eq_error_of_endsWith second⟩

/-- Growth under a condition that never holds defeats the cap: the run is never settled,
stopped or capped, however many passes it is allowed. Where the growth is steep, the run
makes its first pass, goes on, and is interrupted in the second one. -/
theorem unmatched_growth_never_ends :
    (∀ limit, ((⟨.default, limit⟩ : Engine).execute (meterProgram steadyGrowth) (meterAt 0)
      untilSettled).result = .error .unsettled) ∧
    (∀ limit, ((⟨.default, limit + 2⟩ : Engine).execute (meterProgram steepGrowth) (meterAt 0)
      untilSettled).result = .error .sumOutOfRange) := by
  constructor
  · intro limit
    exact runPasses_unsettled steadyGrowth_pass limit 1 ⟨0, rfl⟩
  · intro limit
    obtain ⟨pass, middle, ran, continues, failed⟩ := steepGrowth_passes
    rw [← meterContext_rules] at ran failed
    have goesOn : pass.continues (meterContext steepGrowth).options = true := continues
    have whole : (runPasses (meterContext steepGrowth) (limit + 2) 1 (.start (meterAt 0))).result =
        .error .sumOutOfRange := by
      simp only [runPasses, Recorded.result_bind, ran, Except.bind, if_pos goesOn, failed]
    exact whole

end Rulebook
