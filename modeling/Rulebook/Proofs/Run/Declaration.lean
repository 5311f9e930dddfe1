import Mathlib.Data.Bool.Basic
import Rulebook.Proofs.Check.Resolution
import Rulebook.Proofs.Run.Context
import Rulebook.Proofs.Run.Plain

/-!
The order of declarations.

Rules run in the order of their priorities and ids, which is one order only where the ids are
distinct (`sortRules_eq_of_perm`), and entities and fields are looked up by their names. So a
program whose rules, entities and fields are declared in another order runs in the same way,
to the last entry of its log (`run_reordered`).
-/

namespace Rulebook

/-! ### Rules -/

/-- Rules are ordered by falling priority, then by identifier. -/
theorem Rule.before_iff {a b : Rule} : a.before b = true ↔
    b.priority < a.priority ∨ a.priority = b.priority ∧ ¬ b.id < a.id := by
  simp [before]

theorem Rule.before_trans {a b c : Rule} (first : a.before b = true) (second : b.before c = true) :
    a.before c = true := by
  rw [before_iff] at first second ⊢
  rcases first with higher | ⟨same, earlier⟩
  · rcases second with higher' | ⟨same', _⟩
    · exact .inl (Int.lt_trans higher' higher)
    · exact .inl (same' ▸ higher)
  · rcases second with higher' | ⟨same', earlier'⟩
    · exact .inl (same ▸ higher')
    · have ids : a.id ≤ c.id :=
        String.le_trans (String.not_lt.mp earlier) (String.not_lt.mp earlier')
      exact .inr ⟨same.trans same', String.not_lt.mpr ids⟩

theorem Rule.before_total (a b : Rule) : (a.before b || b.before a) = true := by
  rw [Bool.or_eq_true, before_iff, before_iff]
  rcases Int.lt_trichotomy a.priority b.priority with less | same | greater
  · exact .inr (.inl less)
  · by_cases earlier : b.id < a.id
    · exact .inr (.inr ⟨same.symm, String.lt_asymm earlier⟩)
    · exact .inl (.inr ⟨same, earlier⟩)
  · exact .inl (.inl greater)

/-- Rules that come before each other have the same id. -/
theorem Rule.id_eq_of_before {a b : Rule} (first : a.before b = true)
    (second : b.before a = true) : a.id = b.id := by
  rw [before_iff] at first second
  have both : ¬ b.id < a.id ∧ ¬ a.id < b.id := by
    rcases first with higher | ⟨same, earlier⟩
    · rcases second with higher' | ⟨same', _⟩ <;> omega
    · rcases second with higher' | ⟨_, earlier'⟩
      · omega
      · exact ⟨earlier, earlier'⟩
  exact String.le_antisymm (String.not_lt.mp both.1) (String.not_lt.mp both.2)

theorem sortRules_sorted : ∀ rules : List Rule,
    (sortRules rules).Pairwise fun a b => a.before b = true :=
  List.pairwise_mergeSort (fun _ _ _ => Rule.before_trans) Rule.before_total

/-- A rule of higher priority, or of the same priority and with a smaller id, is sorted before. -/
theorem mem_earlier_of_precedes {rules earlier later : List Rule} {rule other : Rule}
    (sorted : sortRules rules = earlier ++ rule :: later) (member : other ∈ rules)
    (precedes : rule.priority < other.priority ∨
      other.priority = rule.priority ∧ other.id < rule.id) : other ∈ earlier := by
  have apart : ¬ rule.before other = true := by
    rw [Rule.before_iff]
    rintro (higher | ⟨same, unsmaller⟩)
    · omega
    · exact unsmaller (precedes.resolve_left (by omega)).2
  have among : other ∈ earlier ++ rule :: later := sorted ▸ List.mem_mergeSort.mpr member
  have ordered := sortRules_sorted rules
  rw [sorted] at ordered
  obtain ⟨_, ordered, _⟩ := List.pairwise_append.mp ordered
  rcases List.mem_append.mp among with inside | further
  · exact inside
  · rcases List.mem_cons.mp further with rfl | after
    · exact absurd (by simpa using Rule.before_total other other) apart
    · exact absurd ((List.pairwise_cons.mp ordered).1 other after) apart

/-- Rules with distinct ids are sorted in one way only. -/
theorem sortRules_eq_of_perm {rules others : List Rule} (perm : rules.Perm others)
    (distinct : (rules.map (·.id)).Nodup) : sortRules rules = sortRules others := by
  have same : (sortRules rules).Perm (sortRules others) :=
    ((List.mergeSort_perm rules _).trans perm).trans (List.mergeSort_perm others _).symm
  refine List.Perm.eq_of_pairwise ?_ (sortRules_sorted rules) (sortRules_sorted others) same
  intro a b memberA memberB first second
  have inside : a ∈ rules := List.mem_mergeSort.mp memberA
  have inside' : b ∈ rules := perm.mem_iff.mpr (List.mem_mergeSort.mp memberB)
  exact List.inj_on_of_nodup_map distinct inside inside' (Rule.id_eq_of_before first second)

/-! ### Programs -/

/-- The same program with its rules, its entities and the fields of these declared in another
order. -/
structure Program.Reordered (p q : Program) : Prop where
  domain : p.domain = q.domain
  description : p.description = q.description
  entities : ReorderedEntities p.entities q.entities
  rules : p.rules.Perm q.rules
  constraints : p.constraints = q.constraints
  examples : p.examples = q.examples
  config : p.config = q.config

namespace Engine

variable {engine : Engine} {p q : Program}

section Reordered

variable (reordered : p.Reordered q) (names : DistinctNames p.entities)
  (ids : (p.rules.map (·.id)).Nodup)

include reordered names ids

theorem execute_reordered (store : Store) (options : ExecutionOptions) :
    engine.execute p store options = engine.execute q store options := by
  have alike := Catalog.resolvesLike_of_reordered names reordered.entities
  have mode : options.evaluationMode engine.settings p =
      options.evaluationMode engine.settings q := by
    rw [ExecutionOptions.evaluationMode, ExecutionOptions.evaluationMode, reordered.config]
  have passes : (engine.context p options).PassesLike (engine.context q options) :=
    { acts := fun ruleId progress action => alike.apply_eq _ _ _ _
      defaultMode := mode
      maxRuleFirings := rfl }
  exact runPasses_congr passes (sortRules_eq_of_perm reordered.rules ids) rfl _ _ _

theorem runWith_reordered (payload : Value) (options : ExecutionOptions)
    (tests : Recorded Interruption (Option (List ExampleResult))) :
    engine.runWith p payload options tests = engine.runWith q payload options tests := by
  have labels : label p = label q := by
    rw [label, label, reordered.description, reordered.domain]
  have records : ∀ execution result,
      executedRecord p options execution result = executedRecord q options execution result := by
    intro execution result
    rw [executedRecord, executedRecord, reordered.rules.length_eq]
  simp only [runWith, labels, execute_reordered reordered names ids, reordered.constraints, records]

theorem runEach_reordered (options : ExecutionOptions) (examples : List Example) :
    engine.runEach p options examples = engine.runEach q options examples := by
  induction examples with
  | nil => rfl
  | cons ex rest ih =>
      simp only [runEach, runExample, runWith_reordered reordered names ids, ih]

end Reordered

end Engine

/-- Declaring the rules, the entities and their fields in another order changes nothing about a
run: it has the same result or the same interruption, and the same log. -/
theorem run_reordered (engine : Engine) (p q : Program) (payload : Value)
    (options : ExecutionOptions) (reordered : p.Reordered q) (names : DistinctNames p.entities)
    (ids : (p.rules.map (·.id)).Nodup) :
    engine.run p payload options = engine.run q payload options := by
  have examples : engine.runExamples p (.default engine.settings) =
      engine.runExamples q (.default engine.settings) := by
    rw [Engine.runExamples, Engine.runExamples, reordered.examples,
      Engine.runEach_reordered reordered names ids]
  rw [Engine.run, Engine.run, examples, Engine.runWith_reordered reordered names ids]

def boxEntity : Entity := ⟨"box", [⟨"size", .number, none, none⟩], none⟩

/-- A shelf and a box, with two rules of the same priority. -/
def shelfProgram : Program :=
  { Program.plain "shelf" []
      [.plain "tag" 1 (.not (.present ⟨"shelf.label", none⟩))
          [.set "shelf.label" (.literal (.text "new") none)] [],
        .plain "fill" 1 (.present ⟨"shelf.label", none⟩)
          [.increment "shelf.count" (.int 1)] []] with
    entities :=
      [⟨"shelf", [⟨"label", .string, none, none⟩, ⟨"count", .number, none, none⟩], none⟩, boxEntity]
    examples := [⟨"bare", none, [], [("shelf", .record [("label", .text "new")])]⟩] }

def turnedProgram : Program :=
  { shelfProgram with
    entities :=
      [boxEntity, ⟨"shelf", [⟨"count", .number, none, none⟩, ⟨"label", .string, none, none⟩], none⟩]
    rules := shelfProgram.rules.reverse }

theorem shelf_turned :
    shelfProgram.Reordered turnedProgram ∧ DistinctNames shelfProgram.entities ∧
      (shelfProgram.rules.map (·.id)).Nodup ∧
      (⟨.default, 1⟩ : Engine).run shelfProgram (.object [])
          { ExecutionOptions.once with evaluateExamples := true } =
        (⟨.default, 1⟩ : Engine).run turnedProgram (.object [])
          { ExecutionOptions.once with evaluateExamples := true } := by
  have reordered : shelfProgram.Reordered turnedProgram :=
    { domain := rfl
      description := rfl
      entities := ⟨shelfProgram.entities.reverse, (List.reverse_perm _).symm,
        .cons ⟨rfl, rfl, .refl _⟩ (.cons ⟨rfl, rfl, .swap _ _ _⟩ .nil)⟩
      rules := (List.reverse_perm _).symm
      constraints := rfl
      examples := rfl
      config := rfl }
  have names : DistinctNames shelfProgram.entities := ⟨by decide, by decide⟩
  have ids : (shelfProgram.rules.map (·.id)).Nodup := by decide
  exact ⟨reordered, names, ids,
    run_reordered ⟨.default, 1⟩ shelfProgram turnedProgram (.object []) _ reordered names ids⟩

end Rulebook
