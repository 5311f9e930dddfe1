import Rulebook.Proofs.Run.Plain
import Rulebook.Proofs.Value.Reordered
import Rulebook.Validate.Clash

/-!
Clashes are found exactly.

`Rule.ClashesWith` says what a clash is, without the search for it: two rules of one priority
set a path to literals that are not the same. The search goes through the rules in the order of
their ids, and where the ids are distinct that order is unique, so the report depends on which
rules there are and not on how they are declared. There is one, unless a clash is to be told with
a number that is too long to be written. It holds one issue for each pair of rules and each path on
which they clash, and nothing else, in the order of both ids and the path (`clashes_exact`).
-/

namespace Rulebook

/-! ### Literals -/

namespace Scalar

/-- Equal values: texts by their characters, other scalars by their place on the number line, a
boolean at 0 or 1. A `nan` equals nothing. -/
def Equal : Scalar → Scalar → Prop
  | .text s, .text t => s = t
  | a, b => ∃ p, a.toValue.looseOf? = some p ∧ b.toValue.looseOf? = some p

/-- The same literal: values of one type that are equal. -/
def SameLiteral (a b : Scalar) : Prop := a.type = b.type ∧ a.Equal b

theorem isScalar_toValue (a : Scalar) : a.toValue.isScalar = true := by
  cases a <;> rfl

theorem not_sameLiteral_powerOfTen {zeros : Nat} (some : 0 < zeros) :
    ¬ (int 1).SameLiteral (powerOfTen zeros) := by
  rintro ⟨_, p, one, other⟩
  cases one
  exact powerOfTen_ne_one some (congrArg int (Position.ofInt_inj.mp (Option.some.inj other)))

/-- Strict equality tells literals apart as their types and values do together. -/
theorem same_iff {a b : Scalar} : a.same b = true ↔ a.SameLiteral b := by
  rw [same, Value.strictEq_scalar_iff (isScalar_toValue a)]
  cases a <;> cases b <;>
    simp [SameLiteral, Equal, type, toValue, Value.looseOf?, Value.isNumber, Value.position?,
      Position.ofInt_inj, bool_toInt_inj, eq_comm]

end Scalar

namespace Rule

def SetsLiteral (rule : Rule) (path : String) (value : Scalar) : Prop :=
  ∃ units, Action.set path (.literal value units) ∈ rule.thenActions ∨
    Action.set path (.literal value units) ∈ rule.elseActions

/-- The rules have one priority, and set the path to literals that are not the same. -/
structure ClashesWith (first second : Rule) (path : String) : Prop where
  priority : first.priority = second.priority
  literals : ∃ a b, first.SetsLiteral path a ∧ second.SetsLiteral path b ∧ ¬ a.SameLiteral b

/-- A rule's literal writes are the literals it sets. -/
theorem mem_literalWrites_iff {rule : Rule} {path : String} {value : Scalar} :
    (path, value) ∈ rule.literalWrites ↔ rule.SetsLiteral path value := by
  unfold literalWrites actions SetsLiteral
  rw [List.mem_filterMap]
  constructor
  · rintro ⟨action, member, written⟩
    split at written
    · rename_i target literal units
      cases written
      exact ⟨units, List.mem_append.mp member⟩
    · cases written
  · rintro ⟨units, member⟩
    exact ⟨_, List.mem_append.mpr member, rfl⟩

theorem mem_writtenTo_iff {rule : Rule} {path : String} {value : Scalar} :
    value ∈ writtenTo path rule.literalWrites ↔ rule.SetsLiteral path value := by
  rw [← mem_literalWrites_iff]
  simp [writtenTo]

/-- The literals that a clash on a path is told with: the first that the one rule sets the path to
and that is apart from some literal of the other rule, and the first of those. -/
structure FirstApart (first second : Rule) (path : String) (a b : Scalar) : Prop where
  left : ∃ before after, writtenTo path first.literalWrites = before ++ a :: after ∧
    ∀ c ∈ before, ∀ d, second.SetsLiteral path d → c.SameLiteral d
  right : ∃ before after, writtenTo path second.literalWrites = before ++ b :: after ∧
    ∀ d ∈ before, a.SameLiteral d
  apart : ¬ a.SameLiteral b

theorem FirstApart.sets {first second : Rule} {path : String} {a b : Scalar}
    (found : first.FirstApart second path a b) :
    first.SetsLiteral path a ∧ second.SetsLiteral path b := by
  obtain ⟨⟨_, _, left, _⟩, ⟨_, _, right, _⟩, _⟩ := found
  exact ⟨mem_writtenTo_iff.mp (left ▸ List.mem_append_right _ List.mem_cons_self),
    mem_writtenTo_iff.mp (right ▸ List.mem_append_right _ List.mem_cons_self)⟩

/-- The rule as it takes part in clashes where no other has its id. -/
def literalWriter (rule : Rule) : LiteralWriter := ⟨rule.id, rule.priority, rule.literalWrites⟩

end Rule

/-! ### Two rules -/

section Pair

variable {first second : Rule} {path : String}

theorem find?_apart_eq_none_iff {c : Scalar} {literals : List Scalar} :
    (literals.map (c, ·)).find? (fun pair : Scalar × Scalar => !pair.1.same pair.2) = none ↔
      ∀ d ∈ literals, c.SameLiteral d := by
  simp [List.find?_eq_none, Scalar.same_iff]

/-- The first one apart is preceded by the same ones. -/
theorem find?_apart_eq_some_iff {a b c : Scalar} {literals : List Scalar} :
    (literals.map (c, ·)).find? (fun pair : Scalar × Scalar => !pair.1.same pair.2) = some (a, b) ↔
      c = a ∧ ¬ a.SameLiteral b ∧ ∃ before after,
        literals = before ++ b :: after ∧ ∀ d ∈ before, a.SameLiteral d := by
  rw [List.find?_map, Option.map_eq_some_iff]
  constructor
  · rintro ⟨d, found, same⟩
    cases same
    obtain ⟨differ, before, after, split, alike⟩ := List.find?_eq_some_iff_append.mp found
    refine ⟨rfl, fun same => ?_, before, after, split, fun d member => ?_⟩
    · simp [Scalar.same_iff.mpr same] at differ
    · simpa [Scalar.same_iff] using alike d member
  · rintro ⟨rfl, differ, before, after, split, alike⟩
    refine ⟨b, List.find?_eq_some_iff_append.mpr ⟨?_, before, after, split, ?_⟩, rfl⟩
    · simpa [← Scalar.same_iff] using differ
    · intro d member
      simpa [Scalar.same_iff] using alike d member

/-- The search for a clash on a path goes through the literals of the first rule, and for each of
them through those of the second. -/
theorem clashOn?_eq_some_iff {error : CheckError} :
    clashOn? first.literalWriter second.literalWriter path = some error ↔
      ∃ a b, first.FirstApart second path a b ∧
        CheckError.clash first.id second.id first.priority path a b = error := by
  rw [clashOn?, Option.map_eq_some_iff, Prod.exists]
  refine exists₂_congr fun a b => and_congr_left fun _ => ?_
  rw [List.find?_flatMap, List.findSome?_eq_some_iff]
  constructor
  · rintro ⟨before, c, after, split, found, earlier⟩
    obtain ⟨rfl, differ, right⟩ := find?_apart_eq_some_iff.mp found
    refine ⟨⟨before, after, split, fun c member d sets => ?_⟩, right, differ⟩
    exact find?_apart_eq_none_iff.mp (earlier c member) d (Rule.mem_writtenTo_iff.mpr sets)
  · rintro ⟨⟨before, after, split, earlier⟩, right, differ⟩
    refine ⟨before, a, after, split, find?_apart_eq_some_iff.mpr ⟨rfl, differ, right⟩, ?_⟩
    intro c member
    exact find?_apart_eq_none_iff.mpr fun d among =>
      earlier c member d (Rule.mem_writtenTo_iff.mp among)

/-- The first clash on a path is one of literals that the two rules set. -/
theorem clash_of_clashOn? {error : CheckError}
    (found : clashOn? first.literalWriter second.literalWriter path = some error) :
    ∃ a b, error = .clash first.id second.id first.priority path a b ∧
      first.SetsLiteral path a ∧ second.SetsLiteral path b ∧ ¬ a.SameLiteral b := by
  obtain ⟨a, b, apart, rfl⟩ := clashOn?_eq_some_iff.mp found
  exact ⟨a, b, rfl, apart.sets.1, apart.sets.2, apart.apart⟩

/-- Two rules clash on a path where they set literals that are apart. -/
theorem isSome_clashOn?_iff :
    (clashOn? first.literalWriter second.literalWriter path).isSome = true ↔
      ∃ a b, first.SetsLiteral path a ∧ second.SetsLiteral path b ∧ ¬ a.SameLiteral b := by
  constructor
  · intro found
    obtain ⟨error, found⟩ := Option.isSome_iff_exists.mp found
    obtain ⟨a, b, _, clash⟩ := clash_of_clashOn? found
    exact ⟨a, b, clash⟩
  · rintro ⟨a, b, inFirst, inSecond, differ⟩
    rw [← Scalar.same_iff] at differ
    simp only [clashOn?, Option.isSome_map, List.find?_isSome, List.mem_flatMap, List.mem_map]
    exact ⟨(a, b), ⟨a, Rule.mem_writtenTo_iff.mpr inFirst, b, Rule.mem_writtenTo_iff.mpr inSecond,
      rfl⟩, by simpa using differ⟩

theorem mem_sortedDistinct {text : String} {texts : List String} :
    text ∈ sortedDistinct texts ↔ text ∈ texts := by
  rw [sortedDistinct, List.mem_mergeSort, List.mem_eraseDups]

/-- Erasing repeats leaves none. -/
theorem nodup_eraseDups : ∀ texts : List String, texts.eraseDups.Nodup
  | [] => List.nodup_nil
  | text :: rest => by
      rw [List.eraseDups_cons, List.nodup_cons]
      exact ⟨by simp, nodup_eraseDups _⟩
termination_by texts => texts.length
decreasing_by exact Nat.lt_succ_of_le (List.length_filter_le ..)

theorem sortedDistinct_rises (texts : List String) :
    (sortedDistinct texts).Pairwise (· < ·) := by
  refine mergeSort_name_rises id ?_
  rw [List.map_id]
  exact nodup_eraseDups _

theorem mem_of_mem_writtenTo {value : Scalar} {writes : List (String × Scalar)}
    (member : value ∈ writtenTo path writes) : (path, value) ∈ writes := by
  obtain ⟨⟨_, _⟩, among, rfl⟩ := List.mem_map.mp member
  obtain ⟨inside, same⟩ := List.mem_filter.mp among
  exact eq_of_beq same ▸ inside

/-- Whatever the rules are, a clash is told with literals that they take part with. -/
theorem writes_of_mem_clashesOf {first second : LiteralWriter} {error : CheckError}
    (member : error ∈ clashesOf first second) :
    ∃ path a b, error = .clash first.id second.id first.priority path a b ∧
      (path, a) ∈ first.writes ∧ (path, b) ∈ second.writes := by
  unfold clashesOf at member
  split at member
  · obtain ⟨path, _, found⟩ := List.mem_filterMap.mp member
    obtain ⟨⟨a, b⟩, candidate, rfl⟩ := Option.map_eq_some_iff.mp found
    obtain ⟨c, inFirst, pair⟩ := List.mem_flatMap.mp (List.mem_of_find?_eq_some candidate)
    obtain ⟨d, inSecond, same⟩ := List.mem_map.mp pair
    cases same
    exact ⟨path, a, b, rfl, mem_of_mem_writtenTo inFirst, mem_of_mem_writtenTo inSecond⟩
  · cases member

/-- The clashes of two rules of one priority are those on the paths where they are apart. -/
theorem mem_clashesOf_iff {error : CheckError} :
    error ∈ clashesOf first.literalWriter second.literalWriter ↔
      first.priority = second.priority ∧ ∃ path a b, first.FirstApart second path a b ∧
        CheckError.clash first.id second.id first.priority path a b = error := by
  unfold clashesOf
  split
  · rename_i same
    have same : first.priority = second.priority := same
    simp only [List.mem_filterMap, same, true_and, mem_sortedDistinct, clashOn?_eq_some_iff]
    refine exists_congr fun path => and_iff_right_of_imp ?_
    rintro ⟨a, b, apart, _⟩
    -- A path on which something is found is among those that the search goes through.
    exact List.mem_map_of_mem (f := Prod.fst) (Rule.mem_literalWrites_iff.mpr apart.sets.1)
  · rename_i differ
    exact iff_of_false List.not_mem_nil fun clash => differ clash.1

/-- A clash of two rules names its path, and the literals that clash there. -/
theorem clash_of_mem_clashesOf {error : CheckError}
    (member : error ∈ clashesOf first.literalWriter second.literalWriter) :
    first.priority = second.priority ∧ ∃ path a b,
      error = .clash first.id second.id first.priority path a b ∧
        first.SetsLiteral path a ∧ second.SetsLiteral path b ∧ ¬ a.SameLiteral b := by
  obtain ⟨same, path, a, b, apart, rfl⟩ := mem_clashesOf_iff.mp member
  exact ⟨same, path, a, b, rfl, apart.sets.1, apart.sets.2, apart.apart⟩

/-- A clash is found under its path. -/
theorem exists_mem_clashesOf (clash : first.ClashesWith second path) :
    ∃ error ∈ clashesOf first.literalWriter second.literalWriter, error.path = some path := by
  obtain ⟨same, literals⟩ := clash
  obtain ⟨error, found⟩ := Option.isSome_iff_exists.mp (isSome_clashOn?_iff.mpr literals)
  obtain ⟨a, b, apart, rfl⟩ := clashOn?_eq_some_iff.mp found
  exact ⟨_, mem_clashesOf_iff.mpr ⟨same, path, a, b, apart, rfl⟩, rfl⟩

/-- The clashes of two rules are about rising paths. -/
theorem clashesOf_rise :
    (clashesOf first.literalWriter second.literalWriter).Pairwise fun e f =>
      ∃ p q, e.path = some p ∧ f.path = some q ∧ p < q := by
  unfold clashesOf
  split
  · rw [List.pairwise_filterMap]
    refine (sortedDistinct_rises _).imp ?_
    intro p q less e foundE f foundF
    obtain ⟨_, _, rfl, _⟩ := clash_of_clashOn? foundE
    obtain ⟨_, _, rfl, _⟩ := clash_of_clashOn? foundF
    exact ⟨p, q, rfl, rfl, less⟩
  · exact List.Pairwise.nil

end Pair

/-! ### Pairs of a rising list -/

section Pairs

variable {α : Type} {r : α → α → Prop} {l : List α} {a b : α}

/-- Pairs are of members. -/
theorem mem_of_mem_pairs (member : (a, b) ∈ pairs l) : a ∈ l ∧ b ∈ l := by
  induction l with
  | nil => cases member
  | cons c rest ih =>
      rw [pairs, List.mem_append, List.mem_map] at member
      rcases member with ⟨d, inside, same⟩ | later
      · cases same
        exact ⟨List.mem_cons_self, List.mem_cons_of_mem _ inside⟩
      · exact ⟨List.mem_cons_of_mem _ (ih later).1, List.mem_cons_of_mem _ (ih later).2⟩

/-- Two items of a rising list are one of its pairs where the first is the smaller one. -/
theorem mem_pairs_iff (rises : l.Pairwise r) (asymm : ∀ a b, r a b → ¬ r b a) :
    (a, b) ∈ pairs l ↔ a ∈ l ∧ b ∈ l ∧ r a b := by
  induction l with
  | nil => simp [pairs]
  | cons c rest ih =>
      obtain ⟨above, rises⟩ := List.pairwise_cons.mp rises
      rw [pairs, List.mem_append, List.mem_map, ih rises]
      constructor
      · rintro (⟨d, inside, same⟩ | ⟨inA, inB, less⟩)
        · cases same
          exact ⟨List.mem_cons_self, List.mem_cons_of_mem _ inside, above _ inside⟩
        · exact ⟨List.mem_cons_of_mem _ inA, List.mem_cons_of_mem _ inB, less⟩
      · rintro ⟨inA, inB, less⟩
        rcases List.mem_cons.mp inB with rfl | laterB
        · rcases List.mem_cons.mp inA with rfl | laterA
          · exact absurd less (asymm _ _ less)
          · exact absurd less (asymm _ _ (above _ laterA))
        · rcases List.mem_cons.mp inA with rfl | laterA
          · exact .inl ⟨b, laterB, rfl⟩
          · exact .inr ⟨laterA, laterB, less⟩

/-- The pairs of a rising list rise by their first items, and then by their second ones. -/
theorem pairs_rise (rises : l.Pairwise r) :
    (pairs l).Pairwise fun x y => r x.1 y.1 ∨ x.1 = y.1 ∧ r x.2 y.2 := by
  induction l with
  | nil => exact List.Pairwise.nil
  | cons c rest ih =>
      obtain ⟨above, rises⟩ := List.pairwise_cons.mp rises
      rw [pairs, List.pairwise_append]
      refine ⟨?_, ih rises, ?_⟩
      · rw [List.pairwise_map]
        exact rises.imp fun less => .inr ⟨rfl, less⟩
      · intro x inside y later
        obtain ⟨d, _, rfl⟩ := List.mem_map.mp inside
        exact .inl (above _ (mem_of_mem_pairs later).1)

end Pairs

/-! ### Rules in the order of their ids -/

def rulesById (rules : List Rule) : List Rule := rules.mergeSort fun a b => nameAtMost a.id b.id

section Order

variable {rules others : List Rule}

theorem mem_rulesById {rule : Rule} : rule ∈ rulesById rules ↔ rule ∈ rules := List.mem_mergeSort

theorem rulesById_rise (distinct : (rules.map (·.id)).Nodup) :
    (rulesById rules).Pairwise fun a b => a.id < b.id :=
  mergeSort_name_rises _ distinct

/-- With distinct ids each rule takes part with its own writes. -/
theorem literalWriters_eq (distinct : (rules.map (·.id)).Nodup) :
    literalWriters rules = (rulesById rules).map Rule.literalWriter := by
  refine List.map_congr_left fun rule member => ?_
  have last : (rulesById rules).reverse.find? (·.id == rule.id) = some rule := by
    have found : ((rulesById rules).reverse.find? (·.id == rule.id)).isSome = true := by
      rw [List.find?_isSome]
      exact ⟨rule, List.mem_reverse.mpr member, beq_self_eq_true _⟩
    obtain ⟨other, found⟩ := Option.isSome_iff_exists.mp found
    have inside := List.mem_reverse.mp (List.mem_of_find?_eq_some found)
    rw [found, List.inj_on_of_nodup_map distinct (mem_rulesById.mp inside)
      (mem_rulesById.mp member) (by simpa using List.find?_some found)]
  unfold rulesById at last
  rw [last]
  rfl

end Order

/-! ### Issues -/

namespace Issue

/-- The issue names two rules, in this order, and a path. -/
def reports (issue : Issue) (first second path : String) : Bool :=
  decide (issue.ruleIds = [first, second] ∧ issue.path = some path)

/-- The first issue comes earlier in the order of the first ids, the second ids and the paths
that they name. -/
def Precedes (issue other : Issue) : Prop :=
  ∃ a b p c d q, issue.reports a b p = true ∧ other.reports c d q = true ∧
    (a < c ∨ a = c ∧ (b < d ∨ b = d ∧ p < q))

/-- An issue reports a clash by its two rules and its path. -/
theorem reports_iff {issue : Issue} {first second path : String} :
    issue.reports first second path = true ↔
      issue.ruleIds = [first, second] ∧ issue.path = some path :=
  decide_eq_true_iff

/-- No issue comes before one that names the same. -/
theorem Precedes.not_both {issue other : Issue} (precedes : issue.Precedes other)
    {first second path : String} (named : issue.reports first second path = true) :
    other.reports first second path = false := by
  obtain ⟨a, b, p, c, d, q, names, names', less⟩ := precedes
  rw [reports_iff] at named names names'
  rw [Bool.eq_false_iff, Ne, reports_iff]
  rintro ⟨ids, path'⟩
  rw [named.1, named.2] at names
  rw [ids, path'] at names'
  simp only [List.cons.injEq, Option.some.injEq, and_true] at names names'
  obtain ⟨⟨rfl, rfl⟩, rfl⟩ := names
  obtain ⟨⟨rfl, rfl⟩, rfl⟩ := names'
  simp only [String.lt_irrefl, or_self, and_false] at less

end Issue

/-- What is apart in a list is counted once at most. -/
theorem countP_le_one {α : Type} {p : α → Bool} {items : List α}
    (apart : items.Pairwise fun a b => p a = true → p b = false) : items.countP p ≤ 1 := by
  induction items with
  | nil => simp
  | cons a rest ih =>
      obtain ⟨first, later⟩ := List.pairwise_cons.mp apart
      by_cases counted : p a = true
      · have none : rest.countP p = 0 := by
          rw [List.countP_eq_zero]
          intro b member
          simp [first b member counted]
        have count : (a :: rest).countP p = rest.countP p + 1 := List.countP_cons_of_pos counted
        omega
      · rw [List.countP_cons_of_neg counted]
        exact ih later

section Program

variable {rules others : List Rule} {first second : Rule}

theorem clashIssues_eq_of_perm (distinct : (rules.map (·.id)).Nodup) (perm : rules.Perm others) :
    clashIssues rules = clashIssues others := by
  have distinct' := (perm.map (·.id)).nodup_iff.mp distinct
  rw [clashIssues, clashIssues, literalWriters_eq distinct, literalWriters_eq distinct',
    rulesById, mergeSort_name_eq_of_perm perm distinct, ← rulesById]

theorem pairs_map {α β : Type} (f : α → β) (l : List α) :
    pairs (l.map f) = (pairs l).map fun pair => (f pair.1, f pair.2) := by
  induction l with
  | nil => rfl
  | cons a rest ih => simp [pairs, ih]

/-- The clashes are those of each pair in the order of identifiers, path by path. -/
theorem clashIssues_eq (distinct : (rules.map (·.id)).Nodup) :
    clashIssues rules = (pairs (rulesById rules)).flatMap fun pair =>
      (clashesOf pair.1.literalWriter pair.2.literalWriter).map
        (·.issue [pair.1.id, pair.2.id]) := by
  rw [clashIssues, literalWriters_eq distinct, pairs_map, List.flatMap_map]
  rfl

/-- The issues are those of clashes of two rules on a path, the smaller id coming first. -/
theorem mem_clashIssues_iff (distinct : (rules.map (·.id)).Nodup) {issue : Issue} :
    issue ∈ clashIssues rules ↔ ∃ first ∈ rules, ∃ second ∈ rules, first.id < second.id ∧
      ∃ error ∈ clashesOf first.literalWriter second.literalWriter,
        issue = error.issue [first.id, second.id] := by
  rw [clashIssues_eq distinct, List.mem_flatMap]
  constructor
  · rintro ⟨⟨first, second⟩, among, member⟩
    rw [mem_pairs_iff (rulesById_rise distinct) fun _ _ => String.lt_asymm, mem_rulesById,
      mem_rulesById] at among
    obtain ⟨error, found, rfl⟩ := List.mem_map.mp member
    exact ⟨first, among.1, second, among.2.1, among.2.2, error, found, rfl⟩
  · rintro ⟨first, inFirst, second, inSecond, less, error, found, rfl⟩
    refine ⟨(first, second), ?_, List.mem_map_of_mem found⟩
    rw [mem_pairs_iff (rulesById_rise distinct) fun _ _ => String.lt_asymm, mem_rulesById,
      mem_rulesById]
    exact ⟨inFirst, inSecond, less⟩

/-- They are told in the order of rules and paths. -/
theorem clashIssues_ordered (distinct : (rules.map (·.id)).Nodup) :
    (clashIssues rules).Pairwise Issue.Precedes := by
  rw [clashIssues_eq distinct, List.pairwise_flatMap]
  constructor
  · rintro ⟨first, second⟩ _
    rw [List.pairwise_map]
    refine clashesOf_rise.imp ?_
    rintro e f ⟨p, q, about, about', less⟩
    exact ⟨_, _, p, _, _, q, Issue.reports_iff.mpr ⟨rfl, about⟩,
      Issue.reports_iff.mpr ⟨rfl, about'⟩, .inr ⟨rfl, .inr ⟨rfl, less⟩⟩⟩
  · refine (pairs_rise (rulesById_rise distinct)).imp ?_
    rintro ⟨a, b⟩ ⟨c, d⟩ less issue inside other inside'
    obtain ⟨e, found, rfl⟩ := List.mem_map.mp inside
    obtain ⟨f, found', rfl⟩ := List.mem_map.mp inside'
    obtain ⟨_, p, _, _, rfl, _⟩ := clash_of_mem_clashesOf found
    obtain ⟨_, q, _, _, rfl, _⟩ := clash_of_mem_clashesOf found'
    refine ⟨a.id, b.id, p, c.id, d.id, q, Issue.reports_iff.mpr ⟨rfl, rfl⟩,
      Issue.reports_iff.mpr ⟨rfl, rfl⟩, ?_⟩
    rcases less with first | ⟨same, second⟩
    · exact .inl first
    · exact .inr ⟨congrArg Rule.id same, .inl second⟩

/-- A clash is told once. -/
theorem countP_clashIssues (distinct : (rules.map (·.id)).Nodup) (inFirst : first ∈ rules)
    (inSecond : second ∈ rules) (less : first.id < second.id) {path : String}
    (clash : first.ClashesWith second path) :
    (clashIssues rules).countP (·.reports first.id second.id path) = 1 := by
  have most : (clashIssues rules).countP (·.reports first.id second.id path) ≤ 1 :=
    countP_le_one ((clashIssues_ordered distinct).imp fun precedes named =>
      precedes.not_both named)
  obtain ⟨error, found, about⟩ := exists_mem_clashesOf clash
  have some : 0 < (clashIssues rules).countP (·.reports first.id second.id path) :=
    List.countP_pos_iff.mpr ⟨_, (mem_clashIssues_iff distinct).mpr
      ⟨first, inFirst, second, inSecond, less, error, found, rfl⟩,
      Issue.reports_iff.mpr ⟨rfl, about⟩⟩
  exact Nat.le_antisymm most some

/-- Two rules of a program that clash on a path, and the literals that this is told with. -/
structure Tells (rules : List Rule) (first second : Rule) (path : String) (a b : Scalar) :
    Prop where
  first_mem : first ∈ rules
  second_mem : second ∈ rules
  ordered : first.id < second.id
  priority : first.priority = second.priority
  literals : first.FirstApart second path a b

/-- All clashes have a text where the numbers do that they are told with. -/
theorem clashesHaveText_iff (distinct : (rules.map (·.id)).Nodup) :
    clashesHaveText rules = true ↔ ∀ first second path a b, Tells rules first second path a b →
      intHasText first.priority = true ∧ a.hasText = true ∧ b.hasText = true := by
  rw [clashesHaveText, literalWriters_eq distinct, pairs_map, List.all_map, List.all_eq_true]
  have among : ∀ {first second}, (first, second) ∈ pairs (rulesById rules) ↔
      first ∈ rules ∧ second ∈ rules ∧ first.id < second.id := by
    intro first second
    rw [mem_pairs_iff (rulesById_rise distinct) fun _ _ => String.lt_asymm, mem_rulesById,
      mem_rulesById]
  constructor
  · intro told first second path a b tells
    have pair := List.all_eq_true.mp (told (first, second)
      (among.mpr ⟨tells.first_mem, tells.second_mem, tells.ordered⟩))
    have clash := pair _ (mem_clashesOf_iff.mpr
      ⟨tells.priority, path, a, b, tells.literals, rfl⟩)
    simpa [CheckError.hasText, and_assoc] using clash
  · rintro written ⟨first, second⟩ member
    obtain ⟨inFirst, inSecond, less⟩ := among.mp member
    refine List.all_eq_true.mpr fun error found => ?_
    obtain ⟨same, path, a, b, apart, rfl⟩ := mem_clashesOf_iff.mp found
    simpa [CheckError.hasText, and_assoc] using
      written first second path a b ⟨inFirst, inSecond, less, same, apart⟩

/-- Where ids repeat, a rule takes part with the writes of another one. -/
theorem of_mem_literalWriters {writer : LiteralWriter} (member : writer ∈ literalWriters rules) :
    (∃ rule ∈ rules, rule.priority = writer.priority) ∧
      ∃ rule ∈ rules, rule.literalWrites = writer.writes := by
  obtain ⟨rule, among, rfl⟩ := List.mem_map.mp member
  refine ⟨⟨rule, List.mem_mergeSort.mp among, rfl⟩, ?_⟩
  cases last : (rulesById rules).reverse.find? (·.id == rule.id) with
  | none => exact ⟨rule, List.mem_mergeSort.mp among, by rw [← rulesById, last]; rfl⟩
  | some other =>
      have inside := List.mem_reverse.mp (List.mem_of_find?_eq_some last)
      exact ⟨other, mem_rulesById.mp inside, by rw [← rulesById, last]; rfl⟩

/-- It is enough that all numbers have a text that the rules set paths to. -/
theorem clashesHaveText_of_literals
    (written : ∀ rule ∈ rules, intHasText rule.priority = true ∧
      ∀ entry ∈ rule.literalWrites, entry.2.hasText = true) : clashesHaveText rules = true := by
  refine List.all_eq_true.mpr fun ⟨first, second⟩ member => List.all_eq_true.mpr ?_
  intro error found
  obtain ⟨path, a, b, rfl, inFirst, inSecond⟩ := writes_of_mem_clashesOf found
  obtain ⟨⟨rule, declared, priority⟩, left, declaredLeft, writesA⟩ :=
    of_mem_literalWriters (mem_of_mem_pairs member).1
  obtain ⟨_, right, declaredRight, writesB⟩ := of_mem_literalWriters (mem_of_mem_pairs member).2
  have told := priority ▸ (written rule declared).1
  have toldA := (written left declaredLeft).2 _ (writesA ▸ inFirst)
  have toldB := (written right declaredRight).2 _ (writesB ▸ inSecond)
  simp [CheckError.hasText, told, toldA, toldB]

theorem clashesHaveText_eq_of_perm (distinct : (rules.map (·.id)).Nodup)
    (perm : rules.Perm others) : clashesHaveText rules = clashesHaveText others := by
  have distinct' := (perm.map (·.id)).nodup_iff.mp distinct
  rw [clashesHaveText, clashesHaveText, literalWriters_eq distinct, literalWriters_eq distinct',
    rulesById, mergeSort_name_eq_of_perm perm distinct, ← rulesById]

end Program

/-- The search returns where every clash can be written, and returns the clashes. -/
theorem findClashes_eq_ok_iff {program : Program} {issues : List Issue} :
    (findClashes program).result = .ok issues ↔
      clashesHaveText program.rules = true ∧ clashIssues program.rules = issues := by
  unfold findClashes
  split <;> simp_all

/-- The report of clashes is exact where the ids of rules are distinct. There is one unless a clash
is to be told with a number that is too long. Each issue is that of two rules of one priority, named
in the order of their ids, and of literals that are not the same and that both set one path to; for
two such rules and such a path there is exactly one. The issues stand in the order of the first ids,
the second ids and the paths, and the whole report is the same for the rules in any other order. -/
theorem clashes_exact (program : Program) (distinct : (program.rules.map (·.id)).Nodup) :
    ((∃ issues, (findClashes program).result = .ok issues) ↔
      ∀ first second path a b, Tells program.rules first second path a b →
        intHasText first.priority = true ∧ a.hasText = true ∧ b.hasText = true) ∧
    (∀ issues, (findClashes program).result = .ok issues →
      (∀ issue ∈ issues, ∃ first ∈ program.rules, ∃ second ∈ program.rules, ∃ path a b,
        first.id < second.id ∧ first.priority = second.priority ∧
        first.SetsLiteral path a ∧ second.SetsLiteral path b ∧ ¬ a.SameLiteral b ∧
        issue = (CheckError.clash first.id second.id first.priority path a b).issue
          [first.id, second.id]) ∧
      (∀ first ∈ program.rules, ∀ second ∈ program.rules, ∀ path,
        first.id < second.id → first.ClashesWith second path →
          issues.countP (·.reports first.id second.id path) = 1) ∧
      issues.Pairwise Issue.Precedes) ∧
    ∀ rules, rules.Perm program.rules →
      findClashes { program with rules := rules } = findClashes program := by
  refine ⟨?_, ?_, ?_⟩
  · rw [← clashesHaveText_iff distinct]
    simp only [findClashes_eq_ok_iff, exists_and_left, exists_eq', and_true]
  · intro issues found
    obtain ⟨_, rfl⟩ := findClashes_eq_ok_iff.mp found
    refine ⟨?_, ?_, clashIssues_ordered distinct⟩
    · intro issue member
      obtain ⟨first, inFirst, second, inSecond, less, error, found, rfl⟩ :=
        (mem_clashIssues_iff distinct).mp member
      obtain ⟨same, path, a, b, rfl, setsA, setsB, differ⟩ := clash_of_mem_clashesOf found
      exact ⟨first, inFirst, second, inSecond, path, a, b, less, same, setsA, setsB, differ, rfl⟩
    · intro first inFirst second inSecond path less clash
      exact countP_clashIssues distinct inFirst inSecond less clash
  · intro rules perm
    -- Rules are sorted by identifier first, which forgets how they were declared.
    have issues := clashIssues_eq_of_perm distinct perm.symm
    have texts := clashesHaveText_eq_of_perm distinct perm.symm
    unfold findClashes
    rw [issues, texts]

def denyRule : Rule :=
  .plain "deny" 0 (.present ⟨"gate.state", none⟩)
    [.set "gate.state" (.literal (.text "shut") none),
      .set "gate.open" (.literal (.bool false) none)] []

def approveRule : Rule :=
  .plain "approve" 0 (.present ⟨"gate.state", none⟩)
    [.set "gate.state" (.literal (.text "shut") none),
      .set "gate.open" (.literal (.int 0) none)]
    [.set "gate.state" (.literal (.text "ajar") none)]

/-- Two rules that disagree about two fields: on one text, written in different branches, and on
a boolean and the number that it stands for elsewhere. -/
def gateProgram : Program :=
  .plain "gate" [("state", .string), ("open", .number)] [denyRule, approveRule]

/-- The two rules clash on both fields, and are reported once for each. -/
theorem gate_clashes_exact :
    (gateProgram.rules.map (·.id)).Nodup ∧
      ∃ issues, (findClashes gateProgram).result = .ok issues ∧
        issues.countP (·.reports "approve" "deny" "gate.open") = 1 ∧
        issues.countP (·.reports "approve" "deny" "gate.state") = 1 ∧
        issues.Pairwise Issue.Precedes := by
  have distinct : (gateProgram.rules.map (·.id)).Nodup := by decide
  have inDeny : denyRule ∈ gateProgram.rules := List.mem_cons_self
  have inApprove : approveRule ∈ gateProgram.rules := List.mem_cons_of_mem _ List.mem_cons_self
  have less : approveRule.id < denyRule.id := by decide
  have openClash : approveRule.ClashesWith denyRule "gate.open" := by
    refine ⟨rfl, .int 0, .bool false, ⟨none, .inl (by decide)⟩, ⟨none, .inl (by decide)⟩, ?_⟩
    rintro ⟨types, _⟩
    cases types
  have stateClash : approveRule.ClashesWith denyRule "gate.state" := by
    refine ⟨rfl, .text "ajar", .text "shut", ⟨none, .inr (by decide)⟩, ⟨none, .inl (by decide)⟩, ?_⟩
    rintro ⟨_, equal⟩
    exact absurd (show "ajar" = "shut" from equal) (by decide)
  have found : (findClashes gateProgram).result = .ok (clashIssues gateProgram.rules) :=
    findClashes_eq_ok_iff.mpr ⟨clashesHaveText_of_literals (by decide), rfl⟩
  obtain ⟨_, once, ordered⟩ := (clashes_exact gateProgram distinct).2.1 _ found
  exact ⟨distinct, _, found, once _ inApprove _ inDeny _ less openClash,
    once _ inApprove _ inDeny _ less stateClash, ordered⟩

def fillRule : Rule :=
  .plain "fill" 0 (.present ⟨"box.size", none⟩) [.set "box.size" (.literal .long none)] []

def emptyRule : Rule :=
  .plain "empty" 0 (.present ⟨"box.size", none⟩) [.set "box.size" (.literal (.int 1) none)] []

/-- Two rules that set one field to different numbers, one of them a long one. -/
def boxProgram : Program := .plain "box" [("size", .number)] [fillRule, emptyRule]

/-- The two rules clash, and there is no report of it. -/
theorem long_clash_not_told :
    (boxProgram.rules.map (·.id)).Nodup ∧ emptyRule.ClashesWith fillRule "box.size" ∧
      (findClashes boxProgram).result = .error .tooManyDigits := by
  have distinct : (boxProgram.rules.map (·.id)).Nodup := by decide
  have apart : emptyRule.FirstApart fillRule "box.size" (.int 1) .long :=
    ⟨⟨[], [], rfl, List.forall_mem_nil _⟩, ⟨[], [], rfl, List.forall_mem_nil _⟩,
      Scalar.not_sameLiteral_powerOfTen (by decide)⟩
  have tells : Tells boxProgram.rules emptyRule fillRule "box.size" (.int 1) .long :=
    ⟨List.mem_cons_of_mem _ List.mem_cons_self, List.mem_cons_self, by decide, rfl, apart⟩
  have untold : clashesHaveText boxProgram.rules = false := by
    refine Bool.eq_false_iff.mpr fun told => ?_
    have written := ((clashesHaveText_iff distinct).mp told _ _ _ _ _ tells).2.2
    rw [Scalar.long_hasText] at written
    cases written
  refine ⟨distinct, ⟨rfl, _, _, apart.sets.1, apart.sets.2, apart.apart⟩, ?_⟩
  rw [findClashes, untold]
  rfl

end Rulebook
