import Rulebook.Evaluate.Constraint
import Rulebook.Proofs.State.Reordered
import Rulebook.Proofs.State.Respelt
import Rulebook.Proofs.Value.Display

/-!
Conditions do not see the order of keys, but for one.

On stores that are the same but for the order of keys a condition ends in the same way, and
its trace resembles the other one: the same result, and the same canonical text. Only where a
value is looked for in a text does its own text count, which shows its keys in their order
(`Condition.SeesOrder`).
-/

namespace Rulebook

/-! ### Computations side by side -/

/-- Both computations fail with the same error, or both return, with related results. -/
inductive Except.Rel {ε α β : Type} (r : α → β → Prop) : Except ε α → Except ε β → Prop where
  | error (e : ε) : Except.Rel r (.error e) (.error e)
  | ok {a : α} {b : β} : r a b → Except.Rel r (.ok a) (.ok b)

namespace Except.Rel

variable {ε α β γ δ : Type} {r : α → β → Prop} {s : γ → δ → Prop} {x : Except ε α}
  {y : Except ε β}

/-- What is done with related results counts only for results that there are. -/
theorem bind {f : α → Except ε γ} {g : β → Except ε δ} (first : Rel r x y)
    (next : ∀ a b, x = .ok a → r a b → Rel s (f a) (g b)) : Rel s (x >>= f) (y >>= g) := by
  cases first with
  | error e => exact .error e
  | ok related => exact next _ _ rfl related

theorem refl (x : Except ε α) : Rel Eq x x := by
  cases x with
  | error e => exact .error e
  | ok a => exact .ok rfl

theorem map {f : α → γ} {g : β → δ} (first : Rel r x y)
    (next : ∀ a b, x = .ok a → r a b → s (f a) (g b)) : Rel s (x.map f) (y.map g) := by
  cases first with
  | error e => exact .error e
  | ok related => exact .ok (next _ _ rfl related)

end Except.Rel

section Lists

variable {α β γ : Type} {r : α → β → Prop} {xs : List α} {ys : List β}

/-- Functions that do not tell related items apart make the same of both lists. -/
theorem map_eq_of_forall₂ {f : α → γ} {g : β → γ} (related : List.Forall₂ r xs ys)
    (each : ∀ a b, r a b → f a = g b) : xs.map f = ys.map g := by
  induction related with
  | nil => rfl
  | cons first _ ih => rw [List.map_cons, List.map_cons, each _ _ first, ih]

theorem flatMap_eq_of_forall₂ {f : α → List γ} {g : β → List γ} (related : List.Forall₂ r xs ys)
    (each : ∀ a b, r a b → f a = g b) : xs.flatMap f = ys.flatMap g := by
  rw [List.flatMap_def, List.flatMap_def, map_eq_of_forall₂ related each]

theorem filterMap_eq_of_forall₂ {f : α → Option γ} {g : β → Option γ}
    (related : List.Forall₂ r xs ys) (each : ∀ a b, r a b → f a = g b) :
    xs.filterMap f = ys.filterMap g := by
  induction related with
  | nil => rfl
  | cons first _ ih => rw [List.filterMap_cons, List.filterMap_cons, each _ _ first, ih]

theorem any_eq_of_forall₂ {f : α → Bool} {g : β → Bool} (related : List.Forall₂ r xs ys)
    (each : ∀ a b, r a b → f a = g b) : xs.any f = ys.any g := by
  induction related with
  | nil => rfl
  | cons first _ ih => rw [List.any_cons, List.any_cons, each _ _ first, ih]

end Lists

/-- Lists of related items have one canonical text if related items have. -/
theorem Value.canonical_list_of_forall₂ {α β : Type} {r : α → β → Prop} {xs : List α}
    {ys : List β} {f : α → Value} {g : β → Value} (related : List.Forall₂ r xs ys)
    (each : ∀ a b, r a b → (f a).canonical = (g b).canonical) :
    (Value.list (xs.map f)).canonical = (Value.list (ys.map g)).canonical := by
  refine canonical_list_congr ?_
  rw [List.map_map, List.map_map]
  exact map_eq_of_forall₂ related each

/-! ### Traces -/

/-- The traces tell the same result and have one canonical text. -/
structure ConditionTrace.Resembles (a b : ConditionTrace) : Prop where
  result : a.result = b.result
  text : a.toValue.canonical = b.toValue.canonical

/-- Records of values that are the same but for the order of keys are so too. -/
theorem Value.reordered_record {fs gs : Record}
    (related : Fields.Related (fun _ => Value.Reordered) fs gs)
    (distinct : (fs.map Prod.fst).Nodup) : (record fs).Reordered (record gs) := by
  have keys : fs.map Prod.fst = gs.map Prod.fst := Fields.Related.map_fst_eq related
  have permuted : Fields.Permuted Value.Reordered fs gs :=
    .of_get? distinct (keys ▸ distinct) (Fields.Related.get? related)
  exact reordered_object_iff.mpr (permuted.rename (f := Key.text) fun _ _ _ _ => Key.text.inj)

/-- Entries with values that are the same but for the order of keys have one canonical text. -/
theorem canonical_writtenRecord {fs gs : Record}
    (related : Fields.Related (fun _ => Value.Reordered) fs gs)
    (distinct : (fs.map Prod.fst).Nodup) (keyed : ∀ entry ∈ fs, entry.2.Keyed) :
    (Value.writtenRecord fs).canonical = (Value.writtenRecord gs).canonical :=
  (Value.reordered_record related distinct).canonical_written (Value.keyed_record distinct keyed)

namespace ConditionTrace

theorem toValues_eq (traces : List ConditionTrace) : toValues traces = traces.map toValue := by
  induction traces with
  | nil => rfl
  | cons trace rest ih => rw [toValues, ih, List.map_cons]

theorem results_eq {xs ys : List ConditionTrace} (each : List.Forall₂ Resembles xs ys) :
    xs.map (·.result) = ys.map (·.result) :=
  map_eq_of_forall₂ each fun _ _ same => same.result

/-- Traces resemble each other when their results, their details and their children do. -/
theorem Resembles.node {kind : String} {result result' : Bool} {operator : Option Operator}
    {details details' : Record} {children children' : List ConditionTrace}
    (same : result = result')
    (shown : (Value.writtenRecord details).canonical = (Value.writtenRecord details').canonical)
    (each : List.Forall₂ Resembles children children') :
    Resembles (.node kind result operator details children)
      (.node kind result' operator details' children') where
  result := same
  text := by
    subst same
    have inner : (Value.list (toValues children)).canonical =
        (Value.list (toValues children')).canonical := by
      rw [toValues_eq, toValues_eq]
      exact Value.canonical_list_of_forall₂ each fun _ _ same => same.text
    exact Value.canonical_record_congr (by simp [shown, inner])

end ConditionTrace

/-! ### Operands and comparisons -/

/-- The comparison looks for a value in a text, and the order of the value's keys decides whether
it occurs there. -/
def SeesOrder (store : Store) (lhs rhs : Operand) : Prop :=
  ∃ text v w, lhs.resolve store = some (.text text) ∧ rhs.resolve store = some v ∧
    v.Reordered w ∧ occursIn v.plain text ≠ occursIn w.plain text

namespace Operand

variable {s t : Store} (reordered : s.Reordered t)

include reordered

/-- Both values are there and the same but for the order of keys, or none is. -/
theorem resolve_reordered (operand : Operand) :
    (operand.resolve s = none ∧ operand.resolve t = none) ∨
      ∃ v w, operand.resolve s = some v ∧ operand.resolve t = some w ∧ v.Reordered w ∧ v.Keyed := by
  cases operand with
  | literal value units =>
      exact .inr ⟨_, _, rfl, rfl, .refl value.keyed_toValue, value.keyed_toValue⟩
  | fact ref =>
      have pair := reordered.read ref.path
      cases inS : s.read ref.path with
      | none =>
          rw [inS] at pair
          cases inT : t.read ref.path with
          | none => exact .inl ⟨inS, inT⟩
          | some w => rw [inT] at pair; cases pair
      | some v =>
          rw [inS] at pair
          cases inT : t.read ref.path with
          | none => rw [inT] at pair; cases pair
          | some w =>
              rw [inT] at pair
              cases pair with
              | some related => exact .inr ⟨v, w, inS, inT, related, reordered.left.read inS⟩

/-- What a trace shows of an operand is the same up to the order of keys. -/
theorem shown_reordered (operand : Operand) :
    (shown (operand.resolve s)).Reordered (shown (operand.resolve t)) ∧
      (shown (operand.resolve s)).Keyed := by
  rcases operand.resolve_reordered reordered with ⟨inS, inT⟩ | ⟨v, w, inS, inT, related, keyed⟩
  · rw [inS, inT]
    exact ⟨.scalar rfl, .scalar rfl⟩
  · rw [inS, inT]
    exact ⟨related, keyed⟩

/-- Which paths are missing does not depend on that order. -/
theorem absentPaths_reordered (operands : List Operand) :
    absentPaths s operands = absentPaths t operands := by
  unfold absentPaths
  congr 1
  funext operand
  unfold absentPath?
  rcases operand.resolve_reordered reordered with ⟨inS, inT⟩ | ⟨v, w, inS, inT, _, _⟩
  · rw [inS, inT]
  · rw [inS, inT]
    rfl

end Operand

/-- An operator relates values in another order alike, if it is not to look for one of them in a
text. -/
theorem Operator.holds_reordered {a b c d : Value} (operator : Operator) (left : a.Reordered b)
    (right : c.Reordered d) (keyedA : a.Keyed) (keyedC : c.Keyed)
    (blind : operator = .contains → ∀ text, a = .text text →
      occursIn c.plain text = occursIn d.plain text) :
    operator.holds a c = operator.holds b d := by
  have equal := left.strictEq_congr right keyedA keyedC
  cases operator with
  | equals => exact equal
  | notEquals => exact congrArg (!·) equal
  | greater => exact right.less_congr left
  | greaterOrEqual => rw [holds, right.less_congr left, left.sameNumber_congr right]; rfl
  | less => exact left.less_congr right
  | lessOrEqual => rw [holds, left.less_congr right, left.sameNumber_congr right]; rfl
  | contains =>
      -- Only a text is searched for what the other value is written as.
      cases left with
      | scalar plain =>
          cases a with
          | text text => exact blind rfl text rfl
          | list => cases plain
          | object => cases plain
          | _ => rfl
      | list items => exact Value.Reordered.hasItem_congr items right keyedA.items keyedC
      | object => rfl
  | memberOf => exact left.isItemOf_congr right keyedA keyedC

/-! ### Conditions -/

/-- Whether the condition holds depends on the order of the keys of a value that some comparison
in it looks for in a text. -/
inductive Condition.SeesOrder (store : Store) : Condition → Prop where
  | contains {lhs rhs : Operand} :
      Rulebook.SeesOrder store lhs rhs → SeesOrder store (.compare lhs .contains rhs)
  | all {conditions : List Condition} {condition : Condition} :
      condition ∈ conditions → SeesOrder store condition → SeesOrder store (.all conditions)
  | any {conditions : List Condition} {condition : Condition} :
      condition ∈ conditions → SeesOrder store condition → SeesOrder store (.any conditions)
  | not {condition : Condition} : SeesOrder store condition → SeesOrder store (.not condition)

namespace Condition

section Single

variable {s t : Store} (reordered : s.Reordered t)

include reordered

/-- Details that go on with the absent operands. -/
theorem canonical_details {fs gs : Record} (operands : List Operand)
    (related : Fields.Related (fun _ => Value.Reordered) fs gs)
    (distinct : (fs.map Prod.fst ++ ["missing"]).Nodup) (keyed : ∀ entry ∈ fs, entry.2.Keyed) :
    (Value.writtenRecord (fs ++ missingEntry (absentPaths s operands))).canonical =
      (Value.writtenRecord (gs ++ missingEntry (absentPaths t operands))).canonical := by
  rw [Operand.absentPaths_reordered reordered]
  unfold missingEntry
  split
  · rw [List.append_nil, List.append_nil]
    exact canonical_writtenRecord related (List.nodup_append.mp distinct).1 keyed
  · have paths : (Value.texts (absentPaths t operands)).Keyed :=
      .list (List.forall_mem_map.mpr fun path _ => .scalar rfl)
    refine canonical_writtenRecord ?_ (by rwa [List.map_append]) ?_
    · exact List.rel_append related (.cons ⟨rfl, .refl paths⟩ .nil)
    · exact List.forall_mem_append.mpr ⟨keyed, List.forall_mem_singleton.mpr paths⟩

/-- Of the comparisons, only a search of a text for a value's own text sees the order. -/
theorem compareTrace_reordered {lhs rhs : Operand} {operator : Operator}
    (blind : ¬ (compare lhs operator rhs).SeesOrder s) :
    (compareTrace s lhs operator rhs).Resembles (compareTrace t lhs operator rhs) := by
  refine .node ?_ ?_ .nil
  · rcases lhs.resolve_reordered reordered with ⟨inS, inT⟩ | ⟨a, b, inS, inT, left, keyedA⟩
    · rw [inS, inT]
    · rcases rhs.resolve_reordered reordered with
        ⟨inS', inT'⟩ | ⟨c, d, inS', inT', right, keyedC⟩
      · rw [inS, inT, inS', inT']
      · rw [inS, inT, inS', inT']
        refine operator.holds_reordered left right keyedA keyedC ?_
        rintro rfl text rfl
        by_contra differs
        exact blind (.contains ⟨text, c, d, inS, inS', right, differs⟩)
  · obtain ⟨left, keyedLeft⟩ := lhs.shown_reordered reordered
    obtain ⟨right, keyedRight⟩ := rhs.shown_reordered reordered
    refine canonical_details reordered [lhs, rhs] ?_ (by simp) ?_
    · exact .cons ⟨rfl, left⟩ (.cons ⟨rfl, right⟩ .nil)
    · exact List.forall_mem_cons.mpr ⟨keyedLeft, List.forall_mem_singleton.mpr keyedRight⟩

/-- Whether a comparison needs a text that is not there does not depend on the order of keys. -/
theorem lacksText_reordered (lhs : Operand) (operator : Operator) (rhs : Operand) :
    operator.lacksText (lhs.resolve s) (rhs.resolve s) =
      operator.lacksText (lhs.resolve t) (rhs.resolve t) := by
  refine operator.lacksText_congr (fun text => ?_) ?_
  · rcases lhs.resolve_reordered reordered with ⟨inS, inT⟩ | ⟨v, w, inS, inT, related, _⟩
    · rw [inS, inT]
    · rw [inS, inT]
      cases related <;> simp
  · rcases rhs.resolve_reordered reordered with ⟨inS, inT⟩ | ⟨v, w, inS, inT, related, keyed⟩
    · rw [inS, inT]
    · rw [inS, inT]
      exact Value.hasText_of_agrees keyed (related.keyed keyed) (related.agrees keyed)

/-- Presence does not depend on how a value is laid out. -/
theorem presentTrace_reordered (fact : FactRef) :
    (presentTrace s fact).Resembles (presentTrace t fact) := by
  obtain ⟨related, keyed⟩ := (Operand.fact fact).shown_reordered reordered
  refine .node ?_ (canonical_writtenRecord ?_ (by simp) ?_) .nil
  · have null : ∀ {v w : Value}, v.Reordered w → (v != .null) = (w != .null) := by
      intro v w related
      cases related <;> rfl
    exact null related
  · exact .cons ⟨rfl, .scalar rfl⟩ (.cons ⟨rfl, related⟩ .nil)
  · exact List.forall_mem_cons.mpr ⟨.scalar rfl, List.forall_mem_singleton.mpr keyed⟩

/-- Membership is decided by equality, which is blind to the order. -/
theorem oneOfTrace_reordered (value : Operand) (options : List Operand) :
    (oneOfTrace s value options).Resembles (oneOfTrace t value options) := by
  refine .node ?_ ?_ .nil
  · -- The result: whether some option is equal to the value.
    simp only [List.any_map]
    rcases value.resolve_reordered reordered with ⟨inS, inT⟩ | ⟨a, b, inS, inT, left, keyedA⟩
    · rw [inS, inT]
      rfl
    · rw [inS, inT]
      simp only [Option.any_some]
      congr 1
      funext option
      simp only [Function.comp_apply]
      rcases option.resolve_reordered reordered with
        ⟨inS', inT'⟩ | ⟨c, d, inS', inT', right, keyedC⟩
      · rw [inS', inT']
        rfl
      · rw [inS', inT']
        exact left.strictEq_congr right keyedA keyedC
  · -- The details: the value and the options as they are shown.
    obtain ⟨related, keyed⟩ := value.shown_reordered reordered
    have items : List.Forall₂ Value.Reordered ((options.map (·.resolve s)).map shown)
        ((options.map (·.resolve t)).map shown) := by
      rw [List.map_map, List.map_map]
      refine List.forall₂_map_left_iff.mpr (List.forall₂_map_right_iff.mpr ?_)
      exact List.forall₂_same.mpr fun option _ => (option.shown_reordered reordered).1
    refine canonical_details reordered (value :: options) ?_ (by simp) ?_
    · exact .cons ⟨rfl, related⟩ (.cons ⟨rfl, .list items⟩ .nil)
    · refine List.forall_mem_cons.mpr ⟨keyed, List.forall_mem_singleton.mpr (.list ?_)⟩
      rw [List.map_map]
      exact List.forall_mem_map.mpr fun option _ => (option.shown_reordered reordered).2

/-- A pattern is run on texts, which have no keys to reorder. -/
theorem matchingTrace_reordered (value : Operand) (pattern : String) (ignoreCase : Bool) :
    Except.Rel ConditionTrace.Resembles (matchingTrace s value pattern ignoreCase)
      (matchingTrace t value pattern ignoreCase) := by
  obtain ⟨related, keyed⟩ := value.shown_reordered reordered
  have details : (Value.writtenRecord [("value", shown (value.resolve s)),
        ("pattern", .text pattern), ("caseInsensitive", .bool ignoreCase)]).canonical =
      (Value.writtenRecord [("value", shown (value.resolve t)), ("pattern", .text pattern),
        ("caseInsensitive", .bool ignoreCase)]).canonical := by
    refine canonical_writtenRecord ?_ (by simp) ?_
    · exact .cons ⟨rfl, related⟩ (.cons ⟨rfl, .scalar rfl⟩ (.cons ⟨rfl, .scalar rfl⟩ .nil))
    · simp only [List.forall_mem_cons]
      exact ⟨keyed, .scalar rfl, .scalar rfl, List.forall_mem_nil _⟩
  unfold matchingTrace
  rcases value.resolve_reordered reordered with ⟨inS, inT⟩ | ⟨v, w, inS, inT, both, _⟩
  · rw [inS, inT] at details ⊢
    exact .ok (.node rfl details .nil)
  · rw [inS, inT] at details ⊢
    cases both with
    | list => exact .ok (.node rfl details .nil)
    | object => exact .ok (.node rfl details .nil)
    | scalar =>
        cases v with
        | text text =>
            exact Except.Rel.bind (.refl _) fun _ _ _ same => .ok (.node same details .nil)
        | _ => exact .ok (.node rfl details .nil)

end Single

section Trees

variable {s t : Store}

mutual

/-- A condition that does not see the order of keys is evaluated alike on stores that differ in
that order only. -/
theorem evaluate_reordered (reordered : s.Reordered t) : ∀ condition : Condition,
    ¬ condition.SeesOrder s →
      Except.Rel ConditionTrace.Resembles (condition.evaluate s) (condition.evaluate t)
  | .compare lhs operator rhs, blind => by
      rw [evaluate, evaluate, lacksText_reordered reordered]
      split
      · exact .error _
      · exact .ok (compareTrace_reordered reordered blind)
  | .present fact, _ => .ok (presentTrace_reordered reordered fact)
  | .oneOf value options, _ => .ok (oneOfTrace_reordered reordered value options)
  | .matching value pattern ignoreCase, _ =>
      matchingTrace_reordered reordered value pattern ignoreCase
  | .all conditions, blind => by
      have each := evaluateEach_reordered reordered conditions fun condition member sees =>
        blind (.all member sees)
      refine each.bind fun children children' _ same => .ok (.node ?_ rfl same)
      simpa [List.all_map] using congrArg (·.all id) (ConditionTrace.results_eq same)
  | .any conditions, blind => by
      have each := evaluateEach_reordered reordered conditions fun condition member sees =>
        blind (.any member sees)
      refine each.bind fun children children' _ same => .ok (.node ?_ rfl same)
      simpa [List.any_map] using congrArg (·.any id) (ConditionTrace.results_eq same)
  | .not condition, blind => by
      have inner := evaluate_reordered reordered condition fun sees => blind (.not sees)
      refine inner.bind fun child child' _ same => .ok (.node ?_ rfl (.cons same .nil))
      rw [same.result]

/-- Conditions in sequence: each is blind, so the traces resemble each other in turn. -/
theorem evaluateEach_reordered (reordered : s.Reordered t) : ∀ conditions : List Condition,
    (∀ condition ∈ conditions, ¬ condition.SeesOrder s) →
      Except.Rel (List.Forall₂ ConditionTrace.Resembles) (evaluateEach s conditions)
        (evaluateEach t conditions)
  | [], _ => .ok .nil
  | condition :: rest, blind => by
      obtain ⟨here, there⟩ := List.forall_mem_cons.mp blind
      refine (evaluate_reordered reordered condition here).bind fun why why' _ first => ?_
      refine (evaluateEach_reordered reordered rest there).bind fun whys whys' _ later => ?_
      exact .ok (.cons first later)

end

end Trees

end Condition

/-! ### Constraints -/

/-- The results are of one constraint and weigh the same, and their traces resemble each other. -/
structure ConstraintResult.Resembles (a b : ConstraintResult) : Prop where
  severity : a.severity = b.severity
  passed : a.passed = b.passed
  text : a.toValue.canonical = b.toValue.canonical

namespace ConstraintReport

structure Resembles (a b : ConstraintReport) : Prop where
  passed : List.Forall₂ ConstraintResult.Resembles a.passed b.passed
  failed : List.Forall₂ ConstraintResult.Resembles a.failed b.failed

variable {a b : ConstraintReport}

/-- Reports that resemble each other count alike. -/
theorem Resembles.count_eq (same : a.Resembles b) (severity : Severity) :
    a.count severity = b.count severity := by
  obtain ⟨_, failed⟩ := a
  obtain ⟨_, failed'⟩ := b
  have each : List.Forall₂ ConstraintResult.Resembles failed failed' := same.failed
  show failed.countP _ = failed'.countP _
  clear same
  induction each with
  | nil => rfl
  | cons first _ ih => simp only [List.countP_cons, first.severity, ih]

theorem Resembles.hasErrors_eq (same : a.Resembles b) : a.hasErrors = b.hasErrors := by
  unfold hasErrors errorCount
  rw [same.count_eq]

/-- In the canonical text the difference is gone. -/
theorem Resembles.text (same : a.Resembles b) : a.toValue.canonical = b.toValue.canonical := by
  have failures : a.hasFailures = b.hasFailures := by
    have lengths := same.failed.length_eq
    cases inA : a.failed <;> cases inB : b.failed <;> simp_all [hasFailures]
  have passed := Value.canonical_list_of_forall₂ same.passed fun _ _ one => one.text
  have failed := Value.canonical_list_of_forall₂ same.failed fun _ _ one => one.text
  refine Value.canonical_record_congr ?_
  simp [passed, failed, failures, same.hasErrors_eq, errorCount, warningCount, same.count_eq]

end ConstraintReport

/-- Constraints that do not see the order of keys come out alike. -/
theorem checkConstraints_reordered {s t : Store} (reordered : s.Reordered t)
    (constraints : List Constraint)
    (blind : ∀ constraint ∈ constraints, ¬ constraint.assertion.SeesOrder s) :
    Except.Rel ConstraintReport.Resembles (checkConstraints s constraints)
      (checkConstraints t constraints) := by
  have each : Except.Rel (List.Forall₂ ConstraintResult.Resembles)
      (constraints.mapM (Constraint.check s)) (constraints.mapM (Constraint.check t)) := by
    induction constraints with
    | nil => exact .ok .nil
    | cons constraint rest ih =>
        obtain ⟨here, there⟩ := List.forall_mem_cons.mp blind
        rw [List.mapM_cons, List.mapM_cons]
        refine Except.Rel.bind (r := ConstraintResult.Resembles) ?_ fun one one' _ first => ?_
        · refine (constraint.assertion.evaluate_reordered reordered here).bind
            fun why why' _ same => .ok ⟨rfl, same.result, ?_⟩
          exact Value.canonical_record_congr (by simp [same.result, same.text])
        · exact (ih there).bind fun _ _ _ later => .ok (.cons first later)
  refine each.bind fun results results' _ same => .ok ⟨?_, ?_⟩
  · exact List.rel_filter (fun _ _ one => by simp [one.passed]) same
  · exact List.rel_filter (fun _ _ one => by simp [one.passed]) same

end Rulebook
