import Mathlib.Data.List.Nodup
import Mathlib.Data.List.Perm.Basic
import Mathlib.Data.List.Perm.Lattice
import Rulebook.Execute.Action
import Rulebook.Proofs.Value.Equality

/-!
Catalogs that resolve paths alike.

Whatever is checked of a program or an action, the declarations come in only where a path is
resolved. Catalogs that resolve every path alike therefore apply every action alike
(`Catalog.ResolvesLike.apply_eq`). So do catalogs whose entities are declared in another order,
with their fields in another order, as long as no name is declared twice: otherwise the first
declaration counts (`Catalog.resolvesLike_of_reordered`).
-/

namespace Rulebook

namespace Catalog

/-- Every path resolves to the same field, or fails with the same error. -/
def ResolvesLike (a b : Catalog) : Prop := ∀ path, a.resolve path = b.resolve path

/-! ### Checks -/

namespace ResolvesLike

variable {a b : Catalog} (alike : a.ResolvesLike b)

include alike

/-- Catalogs that resolve alike type operands alike. -/
theorem checkOperand_eq (operand : Operand) (expected : Option ScalarType) :
    a.checkOperand operand expected = b.checkOperand operand expected := by
  have types : a.operandType operand expected = b.operandType operand expected := by
    cases operand with
    | fact ref => simp only [operandType, alike ref.path]
    | literal value units => rfl
  simp only [checkOperand, types]

/-- They judge units alike. -/
theorem checkUnits_eq (operand : Operand) (field : FieldDecl) (path : Option String) :
    a.checkUnits operand field path = b.checkUnits operand field path := by
  have units : a.operandUnit operand = b.operandUnit operand := by
    unfold operandUnit
    split
    · rfl
    · rw [alike]
    · rfl
  simp only [checkUnits, units]

theorem checkWrite_eq (target : String) (value : Operand) :
    Plan.checkWrite a target value = Plan.checkWrite b target value := by
  simp only [Plan.checkWrite, alike target, alike.checkOperand_eq, alike.checkUnits_eq]

theorem checkIncrement_eq (target : String) :
    a.checkIncrement target = b.checkIncrement target := by
  simp only [checkIncrement, alike target]

/-- They plan actions alike, so an action's effect only asks where its paths lead. -/
theorem ofAction_eq (store : Store) (ruleId : String) (action : Action) :
    Plan.ofAction a store ruleId action = Plan.ofAction b store ruleId action := by
  cases action with
  | set target value | append target value =>
      simp only [Plan.ofAction, Plan.ofOperand, alike.checkWrite_eq]
  | increment target delta => simp only [Plan.ofAction, alike.checkIncrement_eq]
  | emit event payload => rfl
  | route queue reason => rfl

/-- Actions are applied alike. -/
theorem apply_eq (live : Bool) (workspace : Workspace) (action : Action) (now : Writer) :
    action.apply a live workspace now = action.apply b live workspace now := by
  simp only [Action.apply, alike.ofAction_eq]

end ResolvesLike

end Catalog

/-! ### Declarations in another order -/

/-- The same entity with its fields in another order. -/
structure Entity.Reordered (a b : Entity) : Prop where
  name : a.name = b.name
  description : a.description = b.description
  fields : a.fields.Perm b.fields

/-- The same entities in another order, each with its fields in another order. -/
def ReorderedEntities (as bs : List Entity) : Prop :=
  ∃ middle, as.Perm middle ∧ List.Forall₂ Entity.Reordered middle bs

/-- No two entities have the same name, nor have two fields of an entity. -/
structure DistinctNames (declared : List Entity) : Prop where
  entities : (declared.map (·.name)).Nodup
  fields : ∀ entity ∈ declared, (entity.fields.map (·.name)).Nodup

theorem Entity.Reordered.symm {a b : Entity} (reordered : a.Reordered b) : b.Reordered a :=
  ⟨reordered.name.symm, reordered.description.symm, reordered.fields.symm⟩

namespace ReorderedEntities

variable {as bs : List Entity} (reordered : ReorderedEntities as bs)

include reordered

theorem symm : ReorderedEntities bs as := by
  have turned : (Relation.Comp (List.Forall₂ Entity.Reordered) List.Perm) as bs := by
    rw [List.forall₂_comp_perm_eq_perm_comp_forall₂]
    exact reordered
  obtain ⟨middle, each, perm⟩ := turned
  exact ⟨middle, perm.symm, (each.imp fun _ _ => Entity.Reordered.symm).flip⟩

/-- Each entity is declared in the other order as well. -/
theorem exists_of_mem {b : Entity} (member : b ∈ bs) : ∃ a ∈ as, a.Reordered b := by
  obtain ⟨middle, perm, each⟩ := reordered
  obtain ⟨a, inside, same⟩ := Value.exists_left_of_forall₂ each member
  exact ⟨a, perm.mem_iff.mpr inside, same⟩

/-- A reordering keeps the names. -/
theorem names_perm : (as.map (·.name)).Perm (bs.map (·.name)) := by
  obtain ⟨middle, perm, each⟩ := reordered
  have same : middle.map (·.name) = bs.map (·.name) := by
    clear perm
    induction each with
    | nil => rfl
    | cons first _ ih => rw [List.map_cons, List.map_cons, first.name, ih]
  exact same ▸ perm.map _

theorem distinctNames (distinct : DistinctNames as) : DistinctNames bs where
  entities := reordered.names_perm.nodup_iff.mp distinct.entities
  fields := by
    intro b member
    obtain ⟨a, inside, same⟩ := reordered.exists_of_mem member
    exact (same.fields.map _).nodup_iff.mp (distinct.fields a inside)

end ReorderedEntities

/-- A search that can find one element only finds it in whatever order. -/
theorem find?_eq_of_perm {α : Type} {xs ys : List α} {p : α → Bool} (perm : xs.Perm ys)
    (single : ∀ x ∈ xs, ∀ y ∈ xs, p x = true → p y = true → x = y) :
    xs.find? p = ys.find? p := by
  cases found : xs.find? p with
  | none =>
      refine (List.find?_eq_none.mpr fun y member => ?_).symm
      exact List.find?_eq_none.mp found y (perm.mem_iff.mpr member)
  | some x =>
      have member := List.mem_of_find?_eq_some found
      have passes := List.find?_some found
      have some : (ys.find? p).isSome = true :=
        List.find?_isSome.mpr ⟨x, perm.mem_iff.mp member, passes⟩
      obtain ⟨y, found'⟩ := Option.isSome_iff_exists.mp some
      have member' := perm.mem_iff.mpr (List.mem_of_find?_eq_some found')
      rw [found', single x member y member' passes (List.find?_some found')]

namespace Catalog

variable {as bs : List Entity}

/-- Reordering entities keeps which of them are known. -/
theorem hasEntity_of_reordered (reordered : ReorderedEntities as bs) (name : String) :
    (⟨as⟩ : Catalog).hasEntity name = (⟨bs⟩ : Catalog).hasEntity name := by
  have named : ∀ declared : List Entity,
      (⟨declared⟩ : Catalog).hasEntity name = (declared.map (·.name)).any (· == name) := by
    intro declared
    rw [hasEntity, List.any_map]
    rfl
  rw [named, named, reordered.names_perm.any_eq]

/-- It permutes the fields each of them has. -/
theorem fieldsOf_of_reordered (reordered : ReorderedEntities as bs) (name : String) :
    ((⟨as⟩ : Catalog).fieldsOf name).Perm ((⟨bs⟩ : Catalog).fieldsOf name) := by
  obtain ⟨middle, perm, each⟩ := reordered
  refine ((perm.filter _).flatMap_right _).trans ?_
  show (List.flatMap _ (middle.filter _)).Perm (List.flatMap _ (bs.filter _))
  clear perm
  induction each with
  | nil => exact .refl _
  | @cons a b _ _ first _ ih =>
      rw [List.filter_cons, List.filter_cons, first.name]
      split
      · exact first.fields.append ih
      · exact ih

/-- Under distinct names at most one field of an entity has a name. -/
theorem fieldsOf_single (distinct : DistinctNames as) {name field : String}
    {x y : FieldDecl} (first : x ∈ (⟨as⟩ : Catalog).fieldsOf name)
    (second : y ∈ (⟨as⟩ : Catalog).fieldsOf name) (nameX : x.name = field)
    (nameY : y.name = field) : x = y := by
  simp only [fieldsOf, List.mem_flatMap, List.mem_filter, beq_iff_eq] at first second
  obtain ⟨entity, ⟨member, named⟩, inside⟩ := first
  obtain ⟨entity', ⟨member', named'⟩, inside'⟩ := second
  obtain rfl := List.inj_on_of_nodup_map distinct.entities member member' (named.trans named'.symm)
  exact List.inj_on_of_nodup_map (distinct.fields entity member) inside inside'
    (nameX.trans nameY.symm)

/-- The order of declarations does not matter where no name is declared twice. -/
theorem resolvesLike_of_reordered (distinct : DistinctNames as)
    (reordered : ReorderedEntities as bs) : (⟨as⟩ : Catalog).ResolvesLike ⟨bs⟩ := by
  intro path
  unfold resolve
  cases splitPath? path with
  | none => rfl
  | some parts =>
      obtain ⟨entity, field⟩ := parts
      have found : ((⟨as⟩ : Catalog).fieldsOf entity).find? (·.name == field) =
          ((⟨bs⟩ : Catalog).fieldsOf entity).find? (·.name == field) := by
        refine find?_eq_of_perm (fieldsOf_of_reordered reordered entity) ?_
        intro x first y second nameX nameY
        exact fieldsOf_single distinct first second (beq_iff_eq.mp nameX) (beq_iff_eq.mp nameY)
      simp only [hasEntity_of_reordered reordered entity, found]

end Catalog

end Rulebook
