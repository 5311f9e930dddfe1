import Rulebook.Proofs.Check.Declared
import Rulebook.Proofs.Validate.Kinds
import Rulebook.Proofs.Validate.Reordered

/-!
Names that are given more than once.

Where names repeat, a path could mean several declarations. It resolves to the first of them, and a
validation that ends tells of the repetition: of each name that repeats among the entities, the
rules, the constraints, the examples or the fields of an entity there is exactly one issue, and
there are no others of this kind (`Validation.TellsRepeated`). So where nothing of the kind is told,
each path could mean one declaration at most (`candidates_single`).
-/

namespace Rulebook

/-! ### Issues of a group -/

/-- A name is duplicated when it stands more than once. -/
theorem mem_duplicates {name : String} {names : List String} :
    name ∈ duplicates names ↔ 1 < names.count name := by
  rw [duplicates, mem_sortedDistinct, List.mem_filter, decide_eq_true_eq]
  refine and_iff_right_of_imp fun repeats => ?_
  exact List.count_pos_iff.mp (Nat.zero_lt_one.trans repeats)

/-- It is then told once. -/
theorem count_duplicates (name : String) (names : List String) :
    (duplicates names).count name = if 1 < names.count name then 1 else 0 := by
  have distinct : (duplicates names).Nodup := by
    refine (sortedDistinct_rises _).imp fun before same => ?_
    exact String.lt_irrefl _ (same ▸ before)
  rw [distinct.count]
  exact if_congr mem_duplicates rfl rfl

/-- An issue tells which name is repeated, and among what. -/
theorem duplicateIssue_inj {label name label' name' : String} :
    duplicateIssue label name = duplicateIssue label' name' ↔ label = label' ∧ name = name' := by
  constructor
  · intro same
    have names : name = name' := by
      have details := congrArg Issue.details same
      simpa [duplicateIssue] using details
    subst names
    have message := congrArg (String.toList ∘ Issue.message) same
    exact ⟨String.toList_injective (by simpa [duplicateIssue] using message), rfl⟩
  · rintro ⟨rfl, rfl⟩
    rfl

/-- An issue is counted as often as its name under its label. -/
theorem count_map_duplicateIssue (label label' name : String) (names : List String) :
    (names.map (duplicateIssue label')).count (duplicateIssue label name) =
      if label' = label then names.count name else 0 := by
  induction names with
  | nil => simp
  | cons first rest ih =>
      rw [List.map_cons, List.count_cons, ih, List.count_cons]
      by_cases among : label' = label
      · simp [duplicateIssue_inj, among]
      · simp [duplicateIssue_inj, among]

/-- Of each name there are as many issues as there are groups of this label that repeat it. -/
theorem count_duplicateIssues (program : Program) (label name : String) :
    (duplicateIssues program).count (duplicateIssue label name) =
      (nameGroups program).countP fun group => group.1 = label ∧ 1 < group.2.count name := by
  unfold duplicateIssues
  induction nameGroups program with
  | nil => rfl
  | cons group rest ih =>
      obtain ⟨label', names⟩ := group
      rw [List.flatMap_cons, List.count_append, ih, List.countP_cons, count_map_duplicateIssue,
        count_duplicates, Nat.add_comm]
      by_cases among : label' = label
      · simp [among]
      · simp [among]

/-! ### Groups of a program -/

def mainGroups (program : Program) : List (String × List String) :=
  [("entity", program.entities.map (·.name)), ("rule", program.rules.map (·.id)),
    ("constraint", program.constraints.map (·.id)), ("example", program.examples.map (·.id))]

/-- How issues call the fields of entities with this name. -/
def fieldsLabel (entity : String) : String := "field on entity \"" ++ entity ++ "\""

theorem toList_fieldsLabel (entity : String) :
    (fieldsLabel entity).toList = "field on entity \"".toList ++ entity.toList ++ "\"".toList := by
  -- opened as it stands, since to unfold the label would reduce its literals
  show ("field on entity \"" ++ entity ++ "\"").toList = _
  rw [String.toList_append, String.toList_append]

/-- The label of fields tells their entity. -/
theorem fieldsLabel_inj {entity entity' : String} :
    fieldsLabel entity = fieldsLabel entity' ↔ entity = entity' := by
  refine ⟨fun same => ?_, congrArg fieldsLabel⟩
  have texts := congrArg String.toList same
  rw [toList_fieldsLabel, toList_fieldsLabel, List.append_left_inj, List.append_right_inj] at texts
  exact String.toList_injective texts

/-- No other group is called as the fields of an entity are. -/
theorem fieldsLabel_ne (entity : String) {label : String}
    (among : label ∈ ["entity", "rule", "constraint", "example"]) : fieldsLabel entity ≠ label := by
  have start : ∀ label ∈ ["entity", "rule", "constraint", "example"],
      label.toList.head? ≠ some 'f' := by decide +kernel
  have text : "field on entity \"".toList = 'f' :: "ield on entity \"".toList := by
    decide +kernel
  rintro rfl
  refine start _ among ?_
  rw [toList_fieldsLabel, text]
  rfl

/-- How often an issue tells of this name, among what is called so. -/
def Validation.told (validation : Validation) (label name : String) : Nat :=
  (validation.errors ++ validation.warnings).count (duplicateIssue label name)

/-- Which issues of duplicate definitions a validation has: exactly one for each name that is given
more than once among the names of entities, the ids of rules, constraints and examples, and the
names of the fields of one entity. -/
structure Validation.TellsRepeated (validation : Validation) (program : Program) : Prop where
  hard : ∀ issue ∈ validation.warnings, issue.kind ≠ .duplicateDefinition
  only : ∀ issue ∈ validation.errors, issue.kind = .duplicateDefinition →
    ∃ group ∈ nameGroups program, ∃ name,
      1 < group.2.count name ∧ issue = duplicateIssue group.1 name
  entities : ∀ name, validation.told "entity" name =
    if 1 < (program.entities.map (·.name)).count name then 1 else 0
  rules : ∀ name, validation.told "rule" name =
    if 1 < (program.rules.map (·.id)).count name then 1 else 0
  constraints : ∀ name, validation.told "constraint" name =
    if 1 < (program.constraints.map (·.id)).count name then 1 else 0
  examples : ∀ name, validation.told "example" name =
    if 1 < (program.examples.map (·.id)).count name then 1 else 0
  fields : ∀ entity name, validation.told (fieldsLabel entity) name =
    program.entities.countP fun declared =>
      declared.name = entity ∧ 1 < (declared.fields.map (·.name)).count name

section Groups

variable (program : Program)

theorem countP_fieldGroups (label name : String) :
    (program.entities.map fun entity =>
      (fieldsLabel entity.name, entity.fields.map (·.name))).countP
        (fun group => group.1 = label ∧ 1 < group.2.count name) =
    program.entities.countP fun declared =>
      fieldsLabel declared.name = label ∧ 1 < (declared.fields.map (·.name)).count name := by
  rw [List.countP_map]
  rfl

theorem nameGroups_eq : nameGroups program = mainGroups program ++
    program.entities.map fun entity =>
      (fieldsLabel entity.name, entity.fields.map (·.name)) := rfl

/-- No main group is called as the fields of an entity are. -/
theorem fieldsLabel_ne_of_mem (entity : String) {group : String × List String}
    (among : group ∈ mainGroups program) : fieldsLabel entity ≠ group.1 := by
  have labels : (mainGroups program).map Prod.fst = ["entity", "rule", "constraint", "example"] :=
    rfl
  exact fieldsLabel_ne entity (labels ▸ List.mem_map_of_mem among)

/-- Apart from the fields of entities, there is one group of each label. -/
theorem count_single {label : String} {names : List String}
    (among : (label, names) ∈ mainGroups program) (name : String) :
    (duplicateIssues program).count (duplicateIssue label name) =
      if 1 < names.count name then 1 else 0 := by
  have fields : (program.entities.countP fun declared =>
      fieldsLabel declared.name = label ∧ 1 < (declared.fields.map (·.name)).count name) = 0 := by
    refine List.countP_eq_zero.mpr fun declared _ both => ?_
    exact fieldsLabel_ne_of_mem program declared.name among (of_decide_eq_true both).1
  rw [count_duplicateIssues, nameGroups_eq, List.countP_append, countP_fieldGroups, fields]
  simp only [mainGroups, List.mem_cons, Prod.mk.injEq, List.not_mem_nil, or_false] at among
  rcases among with ⟨rfl, rfl⟩ | ⟨rfl, rfl⟩ | ⟨rfl, rfl⟩ | ⟨rfl, rfl⟩ <;>
    simp [mainGroups, List.countP_cons]

/-- A repeated field is told once for each declaration of the entity that repeats it. -/
theorem count_fields (entity name : String) :
    (duplicateIssues program).count (duplicateIssue (fieldsLabel entity) name) =
      program.entities.countP fun declared =>
        declared.name = entity ∧ 1 < (declared.fields.map (·.name)).count name := by
  have others : (mainGroups program).countP
      (fun group => group.1 = fieldsLabel entity ∧ 1 < group.2.count name) = 0 := by
    refine List.countP_eq_zero.mpr fun group member both => ?_
    exact fieldsLabel_ne_of_mem program entity member (of_decide_eq_true both).1.symm
  rw [count_duplicateIssues, nameGroups_eq, List.countP_append, countP_fieldGroups, others,
    Nat.zero_add]
  exact List.countP_congr fun declared _ => by simp [fieldsLabel_inj]

end Groups

/-! ### Validations -/

/-- Some name is given more than once where it has to be unique. -/
def Program.Repeats (program : Program) : Prop :=
  ∃ group ∈ nameGroups program, ∃ name, 1 < group.2.count name

theorem mem_duplicateIssues {program : Program} {issue : Issue} :
    issue ∈ duplicateIssues program ↔
      ∃ group ∈ nameGroups program, ∃ name,
        1 < group.2.count name ∧ issue = duplicateIssue group.1 name := by
  simp only [duplicateIssues, List.mem_flatMap, List.mem_map, mem_duplicates, eq_comm]

theorem kind_of_mem_coverageIssues {program : Program} {coverage : List RuleCoverage}
    {issue : Issue} (member : issue ∈ coverageIssues program coverage) :
    issue.kind ≠ .duplicateDefinition := by
  unfold coverageIssues at member
  split at member
  · rw [List.mem_singleton.mp member]
    nofun
  · obtain ⟨entry, _, rfl⟩ := List.mem_map.mp member
    nofun

variable {engine : Engine} {program : Program} {validation : Validation}

/-- The issues of a validation are the duplicate definitions, and others of other kinds. -/
theorem Engine.validated_issues (validated : (engine.validate program).result = .ok validation) :
    ∃ others coverage, validation = .ofIssues (duplicateIssues program ++ others) coverage ∧
      ∀ issue ∈ others, issue.kind ≠ .duplicateDefinition := by
  obtain ⟨issues, found, outcome⟩ := validate_eq_ok_iff.mp validated
  obtain ⟨checked, rfl, kinds⟩ := eq_append_of_foundIssues found
  have checkedKinds := kinds.kind_ne (by decide : .duplicateDefinition ∉ checkKinds)
  rcases outcome with ⟨_, rfl⟩ | ⟨_, coverage, _, rfl⟩
  · exact ⟨checked, [], rfl, checkedKinds⟩
  · refine ⟨checked ++ coverageIssues program coverage, coverage, ?_, ?_⟩
    · rw [← List.append_assoc]
    · exact List.forall_mem_append.mpr
        ⟨checkedKinds, fun issue => kind_of_mem_coverageIssues⟩

/-- Repeating a name is having names that are not distinct. -/
theorem Program.Repeats.not_distinctlyNamed (repeats : program.Repeats) :
    ¬ program.DistinctlyNamed := by
  obtain ⟨group, among, name, repeated⟩ := repeats
  have member : duplicateIssue group.1 name ∈ duplicateIssues program :=
    mem_duplicateIssues.mpr ⟨group, among, name, repeated, rfl⟩
  intro named
  cases unobjected_duplicateIssues_iff.mpr named _ member

/-- Where a name repeats, the examples are not run, so a validation comes to its end unless there
is an error that cannot be told. -/
theorem Program.Repeats.validate_returns_iff (repeats : program.Repeats) (engine : Engine) :
    (∃ validation, (engine.validate program).result = .ok validation) ↔ ¬ program.Untold := by
  rw [returns_iff, Engine.validate_fails_iff, not_iff_not]
  refine or_iff_left ?_
  rintro ⟨sound, _⟩
  exact repeats.not_distinctlyNamed (passed_foundIssues_iff.mp sound).1

/-- A validation tells what is repeated as often as the duplicate definitions do. -/
theorem told_eq (validated : (engine.validate program).result = .ok validation)
    (label name : String) :
    validation.told label name = (duplicateIssues program).count (duplicateIssue label name) := by
  obtain ⟨others, coverage, rfl, kinds⟩ := Engine.validated_issues validated
  have whole : ((Validation.ofIssues (duplicateIssues program ++ others) coverage).errors ++
      (Validation.ofIssues (duplicateIssues program ++ others) coverage).warnings).Perm
        (duplicateIssues program ++ others) := List.filter_append_perm ..
  have absent : duplicateIssue label name ∉ others := fun member => kinds _ member rfl
  rw [Validation.told, whole.count_eq, List.count_append, List.count_eq_zero_of_not_mem absent,
    Nat.add_zero]

/-- A validation that is returned tells every repeated name. -/
theorem Validation.tellsRepeated
    (validated : (engine.validate program).result = .ok validation) :
    validation.TellsRepeated program where
  hard := by
    obtain ⟨others, coverage, rfl, kinds⟩ := Engine.validated_issues validated
    intro issue member
    obtain ⟨member, soft⟩ := List.mem_filter.mp member
    rcases List.mem_append.mp member with duplicate | other
    · obtain ⟨group, _, name, _, rfl⟩ := mem_duplicateIssues.mp duplicate
      cases soft
    · exact kinds issue other
  only := by
    obtain ⟨others, coverage, rfl, kinds⟩ := Engine.validated_issues validated
    intro issue member kind
    rcases List.mem_append.mp (List.mem_filter.mp member).1 with duplicate | other
    · exact mem_duplicateIssues.mp duplicate
    · exact absurd kind (kinds issue other)
  entities name := (told_eq validated _ _).trans (count_single program (by simp [mainGroups]) name)
  rules name := (told_eq validated _ _).trans (count_single program (by simp [mainGroups]) name)
  constraints name :=
    (told_eq validated _ _).trans (count_single program (by simp [mainGroups]) name)
  examples name := (told_eq validated _ _).trans (count_single program (by simp [mainGroups]) name)
  fields entity name := (told_eq validated _ _).trans (count_fields program entity name)

/-! ### Single declarations -/

/-- Under distinct names, the fields of all entities of one name have distinct names. -/
theorem DistinctNames.fieldsOf_nodup {declared : List Entity} (distinct : DistinctNames declared)
    (entity : String) : (((⟨declared⟩ : Catalog).fieldsOf entity).map (·.name)).Nodup := by
  rw [Catalog.fieldsOf, List.map_flatMap, List.nodup_flatMap]
  constructor
  · intro other member
    exact distinct.fields other (List.mem_filter.mp member).1
  · have apart := (List.pairwise_map.mp distinct.entities).filter fun other => other.name == entity
    refine apart.imp_of_mem fun first second differ => ?_
    have named := beq_iff_eq.mp (List.mem_filter.mp first).2
    have named' := beq_iff_eq.mp (List.mem_filter.mp second).2
    exact absurd (named.trans named'.symm) differ

/-- Under distinct names a pair has one declaration at most. -/
theorem candidates_single {declared : List Entity} (distinct : DistinctNames declared)
    (entity field : String) : ((⟨declared⟩ : Catalog).candidates entity field).length ≤ 1 := by
  have single := List.nodup_iff_count_le_one.mp (distinct.fieldsOf_nodup entity) field
  rw [List.count_eq_countP, List.countP_map, List.countP_eq_length_filter] at single
  rwa [Catalog.candidates_eq_filter]

/-- Where no name is told to repeat, none does. -/
theorem distinctlyNamed_of_silent (validated : (engine.validate program).result = .ok validation)
    (silent : ∀ issue ∈ validation.errors ++ validation.warnings,
      issue.kind ≠ .duplicateDefinition) : program.DistinctlyNamed := by
  obtain ⟨others, coverage, rfl, _⟩ := Engine.validated_issues validated
  refine unobjected_duplicateIssues_iff.mp fun issue duplicate => ?_
  have member : issue ∈ duplicateIssues program ++ others := List.mem_append_left _ duplicate
  refine absurd (kind_of_mem_duplicateIssues duplicate) (silent issue ?_)
  exact (List.filter_append_perm (·.isHard) _).mem_iff.mpr member

/-- A path resolves to what a table of all entities has under it, which keeps what is entered first:
the first of all declarations that the path could mean. If there is none, it is refused with the
part that is to blame. The validation of a program in which a name repeats comes to its end, unless
there is an error that it cannot tell, and has exactly one issue for each name that repeats among
the same. Where a validation tells of none, no path could mean two declarations. -/
theorem repeated_names_told (engine : Engine) (program : Program) :
    (∀ (declared : List Entity) (path : String),
      (⟨declared⟩ : Catalog).resolve path = (EntityTable.ofEntities declared).lookup path ∧
      (⟨declared⟩ : Catalog).ResolvesFirst path) ∧
    (program.Repeats →
      ((∃ validation, (engine.validate program).result = .ok validation) ↔ ¬ program.Untold)) ∧
    ∀ validation, (engine.validate program).result = .ok validation →
      validation.TellsRepeated program ∧
      ((∀ issue ∈ validation.errors ++ validation.warnings,
          issue.kind ≠ .duplicateDefinition) →
        ∀ entity field, ((Catalog.ofProgram program).candidates entity field).length ≤ 1) := by
  refine ⟨fun declared path => ⟨?_, Catalog.resolvesFirst _ path⟩, ?_, ?_⟩
  · exact Catalog.resolve_eq_lookup declared path
  · intro repeats
    exact repeats.validate_returns_iff engine
  · intro validation validated
    refine ⟨Validation.tellsRepeated validated, fun silent entity field => ?_⟩
    have named := distinctlyNamed_of_silent validated silent
    exact candidates_single named.entities entity field

/-- Two entities of one name, both with a size, and the second one with a color. -/
def mergedProgram : Program :=
  { Program.plain "item" [("size", .number)] [] with
    entities := [⟨"item", [⟨"size", .number, none, none⟩], none⟩,
      ⟨"item", [⟨"size", .string, none, none⟩, ⟨"color", .string, none, none⟩], none⟩] }

theorem mergedProgram_nameable : mergedProgram.Nameable where
  operands condition member := by cases member
  written rule member := by cases member
  priorities rule member := by cases member

/-- The items share their fields, and the first size counts. They are told of once, and the size is
not, as no entity repeats it. In a program of one item, a size is the only one. -/
theorem merged_items_told :
    mergedProgram.Repeats ∧
    (∃ validation, ((⟨.default, 1⟩ : Engine).validate mergedProgram).result = .ok validation ∧
      validation.told "entity" "item" = 1 ∧ validation.told (fieldsLabel "item") "size" = 0) ∧
    (Catalog.ofProgram mergedProgram).resolve "item.size" = .ok ⟨"size", .number, none, none⟩ ∧
    (Catalog.ofProgram mergedProgram).resolve "item.color" = .ok ⟨"color", .string, none, none⟩ ∧
    (∃ error, (Catalog.ofProgram mergedProgram).resolve "item.weight" = .error error ∧
      Catalog.Blames error "weight") ∧
    ((Catalog.ofProgram (.plain "item" [("size", .number)] [])).candidates
      "item" "size").length ≤ 1 := by
  obtain ⟨resolves, returns, tells⟩ := repeated_names_told ⟨.default, 1⟩ mergedProgram
  have first := fun path => (resolves mergedProgram.entities path).2
  have repeats : mergedProgram.Repeats :=
    ⟨_, List.mem_cons_self, "item", by decide +kernel⟩
  obtain ⟨validation, validated⟩ := (returns repeats).mpr mergedProgram_nameable.not_untold
  obtain ⟨told, _⟩ := tells validation validated
  have plain : returnsWith (fun validation => decide (∀ issue ∈
      validation.errors ++ validation.warnings, issue.kind ≠ .duplicateDefinition))
      ((⟨.default, 1⟩ : Engine).validate (.plain "item" [("size", .number)] [])).result = true := by
    decide +kernel
  obtain ⟨validation', validated', silent⟩ := eq_ok_of_returnsWith plain
  obtain ⟨_, _, tells'⟩ := repeated_names_told ⟨.default, 1⟩ (.plain "item" [("size", .number)] [])
  have lacks : (Catalog.ofProgram mergedProgram).Lacks (dotted "item" "weight") "weight" :=
    .field (by decide +kernel) (by decide +kernel)
      ⟨⟨"item", [⟨"size", .number, none, none⟩], none⟩, List.mem_cons_self, rfl⟩ (by decide +kernel)
  refine ⟨repeats, ⟨validation, validated, ?_, ?_⟩, ?_, ?_, ?_, ?_⟩
  · rw [told.entities]
    decide +kernel
  · rw [told.fields]
    decide +kernel
  · exact ((first "item.size").found _).mpr
      ⟨"item", "size", by decide +kernel, by decide +kernel, rfl, by decide +kernel⟩
  · exact ((first "item.color").found _).mpr
      ⟨"item", "color", by decide +kernel, by decide +kernel, rfl, by decide +kernel⟩
  · exact ((first (dotted "item" "weight")).refused _).mpr lacks
  · exact (tells' validation' validated').2 (of_decide_eq_true silent) "item" "size"

/-- A size that is declared twice, and as a text first, is not told of where it is compared with a
long number. -/
theorem overfull_size_not_told :
    swappedOverfull.Repeats ∧
      ((⟨.default, 1⟩ : Engine).validate swappedOverfull).result = .error .tooManyDigits := by
  constructor
  · exact ⟨_, List.mem_append_right _ List.mem_cons_self, "size", by decide +kernel⟩
  · apply eq_error_of_endsWith
    decide +kernel

end Rulebook
