import Mathlib.Logic.Relation
import Rulebook.Proofs.Document.Outcome

/-!
Older spellings are read like the present ones.

A document may spell the kinds of conditions, operators, modes, severities and some of the names
of entries in more than one way. `Respells` is one exchange of such spellings, at one place of a
document and at any depth; `Place` says what stands at a place and so which spellings can be
exchanged there. A document that is respelled any number of times is read as the same program, or
refused as before (`respelling_invisible`).
-/

namespace Rulebook

open Reader

/-! ### Places -/

/-- What stands at a place of a document, as far as spellings go. Free places have only one. -/
inductive Place where
  | program | rules | rule | constraints | constraint | config
  | condition | conditions | actions | action
  | kind | operator | mode | severity | free
deriving DecidableEq

namespace Place

def item : Place → Place
  | rules => rule
  | constraints => constraint
  | conditions => condition
  | actions => action
  | _ => free

def entry : Place → String → Place
  | program, "rules" => rules
  | program, "constraints" => constraints
  | program, "config" => config
  | rule, "mode" => mode
  | rule, "when" => condition
  | rule, "then" | rule, "actions" | rule, "else" | rule, "else_" => actions
  | constraint, "assert" | constraint, "assert_" => condition
  | constraint, "severity" => severity
  | config, "ruleEvaluation" | config, "rule_evaluation" => mode
  | condition, "kind" => kind
  | condition, "operator" => operator
  | condition, "condition" => condition
  | condition, "conditions" => conditions
  | _, _ => free

def words : Place → List (List String)
  | kind => [["compare", "comparison"], ["all", "and"], ["any", "or"]]
  | operator =>
      [["equals", "==", "eq"], ["not_equals", "!=", "neq"], ["greater", ">", "gt"],
       ["greater_or_equal", ">=", "gte"], ["less", "<", "lt"], ["less_or_equal", "<=", "lte"],
       ["member_of", "in"]]
  | mode => [["firstMatch", "first"], ["allMatches", "all"]]
  | severity => [["warn", "warning"]]
  | _ => []

def names : Place → List (Key × Value) → List (List String)
  | rule, _ => [["then", "actions"]]
  | action, fields =>
      [["event", "eventName"], ["queue", "toQueue"]] ++
        match tag fields with
        | .word "increment" => [["delta", "value", "numericDelta"]]
        | _ => []
  | _, _ => []

end Place

/-- One exchange of spellings. A name is exchanged in a record that has no other entry under a name
that can stand for it. -/
inductive Respells : Place → Value → Value → Prop where
  | word {place : Place} {group : List String} {s t : String} :
      group ∈ place.words → s ∈ group → t ∈ group → Respells place (.text s) (.text t)
  | item {place : Place} {before after : List Value} {v w : Value} :
      Respells place.item v w →
        Respells place (.list (before ++ v :: after)) (.list (before ++ w :: after))
  | entry {place : Place} {before after : List (Key × Value)} {name : String} {v w : Value} :
      Respells (place.entry name) v w →
        Respells place (.object (before ++ (.text name, v) :: after))
          (.object (before ++ (.text name, w) :: after))
  | name {place : Place} {before after : List (Key × Value)} {group : List String}
      {old new : String} {v : Value} :
      group ∈ place.names (before ++ (.text old, v) :: after) → old ∈ group → new ∈ group →
        (∀ entry ∈ before ++ after, ∀ name ∈ group, entry.1 ≠ .text name) →
          Respells place (.object (before ++ (.text old, v) :: after))
            (.object (before ++ (.text new, v) :: after))

/-! ### What is read the same -/

namespace Place

/-- The same value, or two words that can stand for one another. -/
def SameWord (place : Place) (v w : Value) : Prop :=
  v = w ∨ ∃ group ∈ place.words, ∃ s ∈ group, ∃ t ∈ group, v = .text s ∧ w = .text t

/-- Two values are read the same where they stand. -/
def Same : Place → Value → Value → Prop
  | program => Program.read.SameOn
  | rules => (list Rule.read).SameOn
  | rule => Rule.read.SameOn
  | constraints => (list Constraint.read).SameOn
  | constraint => Constraint.read.SameOn
  | config => (optional ProgramConfig.read).SameOn
  | condition => Condition.read.SameOn
  | conditions => (nonEmptyList Condition.read).SameOn
  | actions => (list Action.read).SameOn
  | action => Action.read.SameOn
  | place => place.SameWord

theorem Same.refl (place : Place) (v : Value) : place.Same v v := by
  cases place with
  | kind | operator | mode | severity | free => exact .inl rfl
  | _ => exact Eq.refl _

section Words

variable {α : Type} {place : Place} {v w : Value}

/-- Where a place has no words, only equal values are the same. -/
theorem SameWord.eq (same : place.SameWord v w) (wordless : place.words = []) : v = w := by
  rcases same with same | ⟨_, known, _⟩
  · exact same
  · rw [wordless] at known
    cases known

/-- Where nothing can be exchanged every reader has the same result. -/
theorem same_of_free {read : Reader α} (same : free.Same v w) : read.SameOn v w := by
  rw [SameWord.eq same rfl]
  rfl

variable {read? : String → Option α}

/-- A reader that does not tell the words of a group apart reads them the same. -/
theorem SameWord.member (same : place.SameWord v w)
    (blind : ∀ group ∈ place.words, ∀ s ∈ group, ∀ t ∈ group, read? s = read? t) :
    (member read?).SameOn v w := by
  rcases same with rfl | ⟨group, known, s, inS, t, inT, rfl, rfl⟩
  · rfl
  · exact member_same (blind group known s inS t inT)

theorem SameWord.optional_member (same : place.SameWord v w)
    (blind : ∀ group ∈ place.words, ∀ s ∈ group, ∀ t ∈ group, read? s = read? t) :
    (optional (Reader.member read?)).SameOn v w := by
  rcases same with rfl | ⟨group, known, s, inS, t, inT, rfl, rfl⟩
  · rfl
  · exact optional_same (member_same (blind group known s inS t inT))

end Words

theorem same_kind {v w : Value} (same : kind.Same v w) :
    (member ConditionKind.read?).SameOn v w :=
  SameWord.member same (by decide)

theorem same_operator {v w : Value} (same : operator.Same v w) :
    (member Operator.read?).SameOn v w :=
  SameWord.member same (by decide)

theorem same_mode {v w : Value} (same : mode.Same v w) :
    (member EvaluationMode.read?).SameOn v w :=
  SameWord.member same (by decide)

theorem same_optional_mode {v w : Value} (same : mode.Same v w) :
    (optional (member EvaluationMode.read?)).SameOn v w :=
  SameWord.optional_member same (by decide)

theorem same_severity {v w : Value} (same : severity.Same v w) :
    (member Severity.read?).SameOn v w :=
  SameWord.member same (by decide)

/-! ### Records of which one entry is respelt -/

/-- A reader that looks for these names looks for all that can stand for one another, or for none
of them, and what it finds is at one place. -/
structure Reads (place : Place) (fields : List (Key × Value)) (looked : List String)
    (found : Place) : Prop where
  whole : ∀ group ∈ place.names fields, looked = group ∨ ∀ name ∈ group, name ∉ looked
  placed : ∀ name ∈ looked, place.entry name = found

/-- Whatever names are looked for, both records have the same for them, or have nothing. -/
def Looks (place : Place) (fs gs : List (Key × Value)) : Prop :=
  ∀ looked found, place.Reads fs looked found →
    Option.Rel found.Same (value? looked fs) (value? looked gs)

section Lookup

variable {place : Place} {before after : List (Key × Value)} {name old new : String}
  {group looked : List String} {v w : Value}

theorem get?_middle (key : Key) :
    Fields.get? key (before ++ (.text name, v) :: after) =
      (Fields.get? key before).or
        (if Key.text name = key then some v else Fields.get? key after) := by
  rw [Fields.get?_append]
  rfl

theorem rel_refl {r : Value → Value → Prop} (refl : ∀ v, r v v) (x : Option Value) :
    Option.Rel r x x := by
  cases x with
  | some v => exact .some (refl v)
  | none => exact .none

/-- The first name that is found is found on both sides. -/
theorem rel_findSome? {r : Value → Value → Prop} {f g : String → Option Value}
    (each : ∀ name ∈ looked, Option.Rel r (f name) (g name)) :
    Option.Rel r (looked.findSome? f) (looked.findSome? g) := by
  induction looked with
  | nil => exact .none
  | cons name rest ih =>
      obtain ⟨here, others⟩ := List.forall_mem_cons.mp each
      rw [List.findSome?_cons, List.findSome?_cons]
      generalize f name = x at here ⊢
      generalize g name = y at here ⊢
      cases here with
      | some related => exact .some related
      | none => exact ih others

/-- Another value at one entry. -/
theorem looks_of_entry (before after : List (Key × Value))
    (same : (place.entry name).Same v w) :
    place.Looks (before ++ (.text name, v) :: after) (before ++ (.text name, w) :: after) := by
  intro looked found reads
  refine rel_findSome? fun n member => ?_
  rw [get?_middle, get?_middle]
  cases Fields.get? (Key.text n) before with
  | some x => exact .some (.refl found x)
  | none =>
      by_cases here : name = n
      · subst here
        rw [reads.placed name member] at same
        simpa using Option.Rel.some same
      · have other : Key.text name ≠ Key.text n := fun equal => here (Key.text.inj equal)
        rw [if_neg other, if_neg other]
        exact rel_refl (Same.refl found) _

/-- The only entry under one of the names of a group. -/
theorem value?_sole (member : name ∈ group)
    (sole : ∀ entry ∈ before ++ after, ∀ n ∈ group, entry.1 ≠ .text n) :
    value? group (before ++ (.text name, v) :: after) = some v := by
  -- No other name of the group stands anywhere.
  have absent : ∀ {part : List (Key × Value)}, part ⊆ before ++ after → ∀ n ∈ group,
      Fields.get? (Key.text n) part = none := fun inside n inGroup =>
    Option.eq_none_iff_forall_ne_some.mpr fun x found =>
      sole _ (inside (Fields.get?_mem found)) n inGroup rfl
  have lookup : ∀ n ∈ group, Fields.get? (Key.text n) (before ++ (.text name, v) :: after) =
      if name = n then some v else none := by
    intro n inGroup
    rw [get?_middle, absent (List.subset_append_left ..) n inGroup,
      absent (List.subset_append_right ..) n inGroup]
    simp
  cases first : value? group (before ++ (.text name, v) :: after) with
  | none =>
      have absent := List.findSome?_eq_none_iff.mp first name member
      rw [lookup name member, if_pos rfl] at absent
      cases absent
  | some x =>
      obtain ⟨n, inGroup, here⟩ := List.exists_of_findSome?_eq_some first
      rw [lookup n inGroup] at here
      split at here
      · exact here.symm
      · cases here

/-- Another name for one entry. -/
theorem looks_of_name (known : group ∈ place.names (before ++ (.text old, v) :: after))
    (inOld : old ∈ group) (inNew : new ∈ group)
    (sole : ∀ entry ∈ before ++ after, ∀ name ∈ group, entry.1 ≠ .text name) :
    place.Looks (before ++ (.text old, v) :: after) (before ++ (.text new, v) :: after) := by
  intro looked found reads
  rcases reads.whole group known with rfl | apart
  · rw [value?_sole inOld sole, value?_sole inNew sole]
    exact .some (.refl found v)
  · refine rel_findSome? fun n member => ?_
    have other : ∀ name ∈ group, Key.text name ≠ Key.text n := by
      intro name inGroup equal
      exact apart name inGroup (Key.text.inj equal ▸ member)
    rw [get?_middle, get?_middle, if_neg (other old inOld), if_neg (other new inNew)]
    exact rel_refl (Same.refl found) _

end Lookup

/-! ### Records -/

section Records

variable {α : Type} {read : Reader α} {place : Place} {fs gs : List (Key × Value)}
  {looked : List String}

/-- A lookup finds documents that are the same at the place that was found. -/
theorem Looks.same (looks : place.Looks fs gs) (found : Place) (reads : place.Reads fs looked found)
    (imp : ∀ {v w}, found.Same v w → read.SameOn v w) :
    Option.Rel read.SameOn (value? looked fs) (value? looked gs) := by
  have pair := looks looked found reads
  generalize value? looked fs = x at pair ⊢
  generalize value? looked gs = y at pair ⊢
  cases pair with
  | some same => exact .some (imp same)
  | none => exact .none

theorem Looks.free (looks : place.Looks fs gs) (reads : place.Reads fs looked .free) :
    Option.Rel read.SameOn (value? looked fs) (value? looked gs) :=
  looks.same .free reads same_of_free

theorem Looks.required (looks : place.Looks fs gs) (reads : place.Reads fs looked .free) :
    (required looked read fs).toOption = (required looked read gs).toOption :=
  required_same (looks.free reads)

theorem Looks.defaulted (looks : place.Looks fs gs) (default : α)
    (reads : place.Reads fs looked .free) :
    (defaulted looked default read fs).toOption = (defaulted looked default read gs).toOption :=
  defaulted_same default (looks.free reads)

/-- The kind of a record is read alike. -/
theorem Looks.tag_eq (looks : place.Looks fs gs) (reads : place.Reads fs ["kind"] .free) :
    tag fs = tag gs := by
  have pair := looks _ _ reads
  unfold tag
  rw [value?_single, value?_single] at pair
  generalize Fields.get? (Key.text "kind") fs = x at pair ⊢
  generalize Fields.get? (Key.text "kind") gs = y at pair ⊢
  cases pair with
  | some same => rw [SameWord.eq same rfl]
  | none => rfl

-- What a reader looks for is compared with the names of its place.
attribute [local simp] Place.entry Place.names

theorem same_config (looks : config.Looks fs gs) :
    (optional ProgramConfig.read).SameOn (.object fs) (.object gs) :=
  Decoded.map_same (Decoded.map_same
    (defaulted_same _ (looks.same .mode ⟨by simp, by simp⟩ same_mode)))

theorem same_constraint (looks : constraint.Looks fs gs) :
    Constraint.read.SameOn (.object fs) (.object gs) :=
  Decoded.seq_same
    (Decoded.seq_same
      (Decoded.seq_same (Decoded.map_same (looks.required ⟨by simp, by simp⟩))
        (looks.required ⟨by simp, by simp⟩))
      (required_same (looks.same .condition ⟨by simp, by simp⟩ id)))
    (defaulted_same _ (looks.same .severity ⟨by simp, by simp⟩ same_severity))

/-- A program's own fields: each is looked up under all of its names. -/
theorem same_program (looks : program.Looks fs gs) :
    Program.read.SameOn (.object fs) (.object gs) :=
  Decoded.seq_same
    (Decoded.seq_same
      (Decoded.seq_same
        (Decoded.seq_same
          (Decoded.seq_same
            (Decoded.seq_same
              (Decoded.map_same (looks.defaulted _ ⟨by simp, by simp⟩))
              (looks.defaulted _ ⟨by simp, by simp⟩))
            (looks.defaulted _ ⟨by simp, by simp⟩))
          (defaulted_same _ (looks.same .rules ⟨by simp, by simp⟩ id)))
        (defaulted_same _ (looks.same .constraints ⟨by simp, by simp⟩ id)))
      (looks.defaulted _ ⟨by simp, by simp⟩))
    (defaulted_same _ (looks.same .config ⟨by simp, by simp⟩ id))

/-- The kind of an action goes by one name. -/
theorem kind_reads_action (fields : List (Key × Value)) : action.Reads fields ["kind"] .free := by
  refine ⟨fun group known => .inr ?_, by simp⟩
  rcases List.mem_append.mp known with always | increment
  · clear known
    revert group
    decide
  · split at increment
    · cases List.mem_singleton.mp increment
      decide
    · cases increment

/-- Actions: the kind is read alike, then each kind's fields. -/
theorem same_action (looks : action.Looks fs gs) :
    Action.read.SameOn (.object fs) (.object gs) := by
  unfold SameOn
  rw [Action.read, Action.read, ← looks.tag_eq (kind_reads_action fs)]
  split
  · rfl
  · rename_i kind
    exact Decoded.within_same
      (Decoded.seq_same (Decoded.map_same (looks.required ⟨by simp [kind], by simp⟩))
        (looks.required ⟨by simp [kind], by simp⟩))
  · rename_i kind
    exact Decoded.within_same
      (Decoded.seq_same (Decoded.map_same (looks.required ⟨by simp [kind], by simp⟩))
        (looks.required ⟨by simp [kind], by simp⟩))
  · rename_i kind
    exact Decoded.within_same
      (Decoded.seq_same (Decoded.map_same (looks.required ⟨by simp [kind], by simp⟩))
        (looks.required ⟨by simp [kind], by simp⟩))
  · rename_i kind
    exact Decoded.within_same
      (Decoded.seq_same (Decoded.map_same (looks.required ⟨by simp [kind], by simp⟩))
        (looks.defaulted _ ⟨by simp [kind], by simp⟩))
  · rename_i kind
    exact Decoded.within_same
      (Decoded.seq_same (Decoded.map_same (looks.required ⟨by simp [kind], by simp⟩))
        (looks.defaulted _ ⟨by simp [kind], by simp⟩))
  · rfl

/-! A condition is read as what its kind says. -/

def readAs : ConditionKind → List (Key × Value) → Decoded Condition
  | .compare, fields => Condition.readCompare fields
  | .present, fields => Condition.readPresent fields
  | .oneOf, fields => Condition.readOneOf fields
  | .matching, fields => Condition.readMatching fields
  | .all, fields => Condition.all <$> Condition.readParts fields
  | .any, fields => Condition.any <$> Condition.readParts fields
  | .not, fields => Condition.not <$> Condition.readPart fields

/-- A condition is read by its kind first. -/
theorem toOption_read_condition (fields : List (Key × Value)) :
    (Condition.read (.object fields)).toOption =
      ((value? ["kind"] fields).elim none fun v => (member ConditionKind.read? v).toOption).elim
        none fun kind => (readAs kind fields).toOption := by
  rw [value?_single, Condition.read, tag]
  cases Fields.get? (Key.text "kind") fields with
  | none => rfl
  | some v =>
      cases v with
      | text s =>
          simp only [Option.elim_some, member]
          cases ConditionKind.read? s with
          | none => rfl
          | some kind => cases kind <;> exact Decoded.toOption_within ..
      | _ => rfl

theorem same_condition (looks : condition.Looks fs gs) :
    Condition.read.SameOn (.object fs) (.object gs) := by
  unfold SameOn
  have kinds : Option.Rel (member ConditionKind.read?).SameOn (value? ["kind"] fs)
      (value? ["kind"] gs) :=
    looks.same .kind ⟨by simp, by simp⟩ same_kind
  -- The kind is read first, and alike, so that both sides look up the same fields.
  rw [toOption_read_condition, toOption_read_condition, elim_same kinds none]
  cases (value? ["kind"] gs).elim none fun v => (member ConditionKind.read? v).toOption with
  | none => rfl
  | some kind =>
      cases kind with
      | compare =>
          exact Decoded.seq_same
            (Decoded.seq_same (Decoded.map_same (looks.required ⟨by simp, by simp⟩))
              (required_same (looks.same .operator ⟨by simp, by simp⟩ same_operator)))
            (looks.required ⟨by simp, by simp⟩)
      | present => exact Decoded.map_same (looks.required ⟨by simp, by simp⟩)
      | oneOf =>
          exact Decoded.seq_same (Decoded.map_same (looks.required ⟨by simp, by simp⟩))
            (looks.required ⟨by simp, by simp⟩)
      | matching =>
          exact Decoded.seq_same
            (Decoded.seq_same (Decoded.map_same (looks.required ⟨by simp, by simp⟩))
              (looks.required ⟨by simp, by simp⟩))
            (looks.defaulted _ ⟨by simp, by simp⟩)
      | all =>
          simp only [Option.elim_some, readAs, Condition.readParts_eq]
          exact Decoded.map_same (required_same (looks.same .conditions ⟨by simp, by simp⟩ id))
      | any =>
          simp only [Option.elim_some, readAs, Condition.readParts_eq]
          exact Decoded.map_same (required_same (looks.same .conditions ⟨by simp, by simp⟩ id))
      | not =>
          simp only [Option.elim_some, readAs, Condition.readPart_eq]
          exact Decoded.map_same (required_same (looks.same .condition ⟨by simp, by simp⟩ id))

/-! The actions of a match are looked for under both names. -/

/-- Lifting the actions of a rule touches no other field. -/
theorem get?_lifted {name : String} (apart : name ≠ "then" ∧ name ≠ "actions")
    (fields : List (Key × Value)) :
    Fields.get? (Key.text name) (Rule.liftActions fields) = Fields.get? (Key.text name) fields := by
  unfold Rule.liftActions
  split
  · rfl
  · split
    · rw [Fields.get?_append, Fields.get?_filter_ne (by simpa using apart.2)]
      simp [Fields.get?, apart.1.symm]
    · rfl

/-- After the lift the actions stand under one name, whichever they were given. -/
theorem get?_lifted_then (fields : List (Key × Value)) :
    Fields.get? (Key.text "then") (Rule.liftActions fields) =
      value? ["then", "actions"] fields := by
  have pair : value? ["then", "actions"] fields =
      (Fields.get? (Key.text "then") fields).or (Fields.get? (Key.text "actions") fields) := by
    cases present : Fields.get? (Key.text "then") fields <;>
      cases older : Fields.get? (Key.text "actions") fields <;> simp [value?, present, older]
  rw [pair, Rule.liftActions, Fields.has]
  cases present : Fields.get? (Key.text "then") fields with
  | some v => simp [present]
  | none =>
      cases older : Fields.get? (Key.text "actions") fields with
      | none => simp [present]
      | some actions =>
          have other : Key.text "then" ≠ Key.text "actions" := by decide
          rw [if_neg (by simp), Fields.get?_append, Fields.get?_filter_ne other, present]
          simp [Fields.get?]

theorem Looks.lifted (looks : rule.Looks fs gs) (found : Place)
    (apart : ∀ name ∈ looked, name ≠ "then" ∧ name ≠ "actions")
    (placed : ∀ name ∈ looked, rule.entry name = found)
    (imp : ∀ {v w}, found.Same v w → read.SameOn v w) :
    Option.Rel read.SameOn (value? looked (Rule.liftActions fs))
      (value? looked (Rule.liftActions gs)) := by
  have whole : ∀ group ∈ rule.names fs, looked = group ∨ ∀ name ∈ group, name ∉ looked := by
    intro group known
    cases List.mem_singleton.mp known
    refine .inr (List.forall_mem_cons.mpr ⟨fun member => (apart _ member).1 rfl, ?_⟩)
    exact List.forall_mem_singleton.mpr fun member => (apart _ member).2 rfl
  rw [value?_congr fun name member => get?_lifted (apart name member) fs,
    value?_congr fun name member => get?_lifted (apart name member) gs]
  exact looks.same found ⟨whole, placed⟩ imp

theorem Looks.lifted_then (looks : rule.Looks fs gs) :
    Option.Rel (list Action.read).SameOn (value? ["then"] (Rule.liftActions fs))
      (value? ["then"] (Rule.liftActions gs)) := by
  rw [value?_single, value?_single, get?_lifted_then, get?_lifted_then]
  exact looks.same .actions ⟨by simp, by simp⟩ id

/-- Rules are read from their lifted fields. -/
theorem same_rule (looks : rule.Looks fs gs) : Rule.read.SameOn (.object fs) (.object gs) :=
  Decoded.seq_same
    (Decoded.seq_same
      (Decoded.seq_same
        (Decoded.seq_same
          (Decoded.seq_same
            (Decoded.seq_same
              (Decoded.seq_same
                (Decoded.seq_same
                  (Decoded.seq_same
                    (Decoded.map_same
                      (required_same (looks.lifted .free (by simp) (by simp) same_of_free)))
                    (required_same (looks.lifted .free (by simp) (by simp) same_of_free)))
                  (defaulted_same _ (looks.lifted .free (by simp) (by simp) same_of_free)))
                (defaulted_same _ (looks.lifted .free (by simp) (by simp) same_of_free)))
              (defaulted_same _ (looks.lifted .free (by simp) (by simp) same_of_free)))
            (defaulted_same _ (looks.lifted .mode (by simp) (by simp) same_optional_mode)))
          (required_same (looks.lifted .condition (by simp) (by simp) id)))
        (defaulted_same _ looks.lifted_then))
      (defaulted_same _ (looks.lifted .actions (by simp) (by simp) id)))
    (defaulted_same _ (looks.lifted .free (by simp) (by simp) same_of_free))

end Records

end Place

/-! ### Respelling -/

/-- A respelling is one of the differences that a reader does not see. -/
theorem Respells.same {place : Place} {v w : Value} (respells : Respells place v w) :
    place.Same v w := by
  induction respells with
  | @word place group s t known inS inT =>
      have same : place.SameWord (.text s) (.text t) :=
        .inr ⟨group, known, s, inS, t, inT, rfl, rfl⟩
      cases place with
      | kind | operator | mode | severity => exact same
      | _ => cases known
  | @item place before after v w _ same =>
      cases place with
      | rules | constraints | actions => exact list_same same before after
      | conditions => exact nonEmptyList_same (list_same same before after)
      | _ =>
          -- What is the same at any other place is equal.
          rw [Place.SameWord.eq same rfl]
          exact .refl _ _
  | @entry place before after name v w _ same =>
      have looks := Place.looks_of_entry before after same
      cases place with
      | program => exact Place.same_program looks
      | rule => exact Place.same_rule looks
      | constraint => exact Place.same_constraint looks
      | config => exact Place.same_config looks
      | condition => exact Place.same_condition looks
      | action => exact Place.same_action looks
      | _ =>
          rw [Place.SameWord.eq same rfl]
          exact .refl _ _
  | @name place before after group old new v known inOld inNew sole =>
      have looks := Place.looks_of_name known inOld inNew sole
      cases place with
      | rule => exact Place.same_rule looks
      | action => exact Place.same_action looks
      | _ => cases known

/-- However often and wherever a document is respelled, it is read as the same program, or refused
as before. -/
theorem respelling_invisible {document respelt : Value}
    (respells : Relation.ReflTransGen (Respells .program) document respelt) :
    (Program.read document).toOption = (Program.read respelt).toOption := by
  induction respells with
  | refl => rfl
  | tail _ last ih => exact ih.trans last.same

/-- A rule that sends a broken lamp to repairs, its kind of condition and two of its names left
open. -/
def lampDocument (kind actions queue : String) : Value :=
  .record
    [("rules", .list
      [.record
        [("id", .text "lamp"), ("name", .text "Lamp"),
         ("when", .record
           [("kind", .text kind),
            ("conditions", .list
              [.record
                [("kind", .text "exists"),
                 ("fact", .record [("path", .text "lamp.broken")])]])]),
         (actions, .list [.record [("kind", .text "route"), (queue, .text "repairs")]])]])]

/-- An exchange within the rule of the lamp. -/
theorem lamp_rule {fs gs : List (String × Value)}
    (respells : Respells .rule (.record fs) (.record gs)) :
    Respells .program (.record [("rules", .list [.record fs])])
      (.record [("rules", .list [.record gs])]) :=
  @Respells.entry .program [] [] "rules" _ _ (@Respells.item .rules [] [] _ _ respells)

/-- The older spellings of the lamp are read like the present ones, as a program. -/
theorem lamp_respelt :
    Relation.ReflTransGen (Respells .program) (lampDocument "and" "actions" "toQueue")
        (lampDocument "all" "then" "queue") ∧
      (Program.read (lampDocument "and" "actions" "toQueue")).toOption =
        (Program.read (lampDocument "all" "then" "queue")).toOption ∧
      (Program.read (lampDocument "all" "then" "queue")).toOption.isSome = true := by
  have kind : Respells .program (lampDocument "and" "actions" "toQueue")
      (lampDocument "all" "actions" "toQueue") := by
    refine lamp_rule (@Respells.entry .rule [_, _] [_] "when" _ _ ?_)
    refine @Respells.entry .condition [] [_] "kind" _ _ ?_
    exact @Respells.word .kind ["all", "and"] _ _ (by decide) (by decide) (by decide)
  have queue : Respells .program (lampDocument "all" "actions" "toQueue")
      (lampDocument "all" "actions" "queue") := by
    refine lamp_rule (@Respells.entry .rule [_, _, _] [] "actions" _ _ ?_)
    refine @Respells.item .actions [] [] _ _ ?_
    exact @Respells.name .action [_] [] ["queue", "toQueue"] _ _ _ (by decide) (by decide)
      (by decide) (by simp)
  have actions : Respells .program (lampDocument "all" "actions" "queue")
      (lampDocument "all" "then" "queue") := by
    refine lamp_rule ?_
    exact @Respells.name .rule [_, _, _] [] ["then", "actions"] _ _ _ (by decide) (by decide)
      (by decide) (by simp)
  have respells := ((Relation.ReflTransGen.single kind).tail queue).tail actions
  exact ⟨respells, respelling_invisible respells, by rfl⟩

end Rulebook
