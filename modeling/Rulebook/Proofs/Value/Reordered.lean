import Rulebook.Document.Canonical
import Rulebook.Document.Written
import Rulebook.Proofs.State.Keyed

/-!
The order of keys.

`Reordered` relates values that are the same but for the order of keys, at every depth. No
comparison of keyed values sees that order (`Reordered.strictEq_congr`), nor does the canonical
form of what is written (`Reordered.canonical_written`). The plain text of a value does.
-/

namespace Rulebook

/-! ### Entries in another order -/

namespace Fields

variable {κ α β : Type}

/-- The same keys in some order, with related values. -/
def Permuted (r : α → β → Prop) (fs : List (κ × α)) (gs : List (κ × β)) : Prop :=
  (fs.map Prod.fst).Perm (gs.map Prod.fst) ∧
    ∀ key v w, (key, v) ∈ fs → (key, w) ∈ gs → r v w

/-- A key stands among the fields just when it is found. -/
theorem mem_keys_iff [DecidableEq κ] {key : κ} {fs : List (κ × α)} :
    key ∈ fs.map Prod.fst ↔ (get? key fs).isSome = true := by
  induction fs with
  | nil => simp [get?]
  | cons entry rest ih =>
      obtain ⟨k, v⟩ := entry
      by_cases same : k = key
      · simp [get?, same]
      · simp [get?, same, Ne.symm same, ← ih]

namespace Permuted

variable {r : α → β → Prop} {fs : List (κ × α)} {gs : List (κ × β)}

theorem distinct (permuted : Permuted r fs gs) (left : (fs.map Prod.fst).Nodup) :
    (gs.map Prod.fst).Nodup :=
  permuted.1.nodup_iff.mp left

/-- Each entry on the left has a related one under its key on the right. -/
theorem exists_right (permuted : Permuted r fs gs) {key : κ} {v : α} (member : (key, v) ∈ fs) :
    ∃ w, (key, w) ∈ gs ∧ r v w := by
  obtain ⟨⟨k, w⟩, inside, rfl⟩ := List.mem_map.mp
    (permuted.1.mem_iff.mp (List.mem_map_of_mem (f := Prod.fst) member))
  exact ⟨w, inside, permuted.2 _ v w member inside⟩

theorem exists_left (permuted : Permuted r fs gs) {key : κ} {w : β} (member : (key, w) ∈ gs) :
    ∃ v, (key, v) ∈ fs ∧ r v w := by
  obtain ⟨⟨k, v⟩, inside, rfl⟩ := List.mem_map.mp
    (permuted.1.mem_iff.mpr (List.mem_map_of_mem (f := Prod.fst) member))
  exact ⟨v, inside, permuted.2 _ v w inside member⟩

theorem map {γ δ : Type} {s : γ → δ → Prop} {f : α → γ} {g : β → δ} (permuted : Permuted r fs gs)
    (each : ∀ entry ∈ fs, ∀ other ∈ gs, r entry.2 other.2 → s (f entry.2) (g other.2)) :
    Permuted s (fs.map fun entry => (entry.1, f entry.2))
      (gs.map fun entry => (entry.1, g entry.2)) := by
  constructor
  · rw [List.map_map, List.map_map]
    exact permuted.1
  · intro key x y inFs inGs
    obtain ⟨⟨_, v⟩, left, same⟩ := List.mem_map.mp inFs
    obtain ⟨⟨_, w⟩, right, same'⟩ := List.mem_map.mp inGs
    cases same
    cases same'
    exact each _ left _ right (permuted.2 _ v w left right)

/-- Entries whose keys are renamed apart stay related. -/
theorem rename {ι : Type} {f : κ → ι} (permuted : Permuted r fs gs)
    (apart : ∀ k ∈ fs.map Prod.fst, ∀ l ∈ fs.map Prod.fst, f k = f l → k = l) :
    Permuted r (fs.map fun entry => (f entry.1, entry.2))
      (gs.map fun entry => (f entry.1, entry.2)) := by
  constructor
  · have keys := permuted.1.map f
    rw [List.map_map] at keys ⊢
    rw [List.map_map] at keys ⊢
    exact keys
  · intro key v w inFs inGs
    obtain ⟨⟨k, v⟩, left, same⟩ := List.mem_map.mp inFs
    obtain ⟨⟨l, w⟩, right, same'⟩ := List.mem_map.mp inGs
    obtain ⟨named, rfl⟩ := Prod.mk.inj same
    obtain ⟨named', rfl⟩ := Prod.mk.inj same'
    have inside : l ∈ fs.map Prod.fst :=
      permuted.1.mem_iff.mpr (List.mem_map_of_mem (f := Prod.fst) right)
    have keys : k = l := apart k (List.mem_map_of_mem (f := Prod.fst) left) l inside
      (named.trans named'.symm)
    subst keys
    exact permuted.2 k v w left right

/-- With equal values the entries are the same in another order. -/
theorem perm {fs gs : List (κ × α)} (permuted : Permuted Eq fs gs)
    (left : (fs.map Prod.fst).Nodup) : fs.Perm gs := by
  refine (List.perm_ext_iff_of_nodup (left.of_map _) ((permuted.distinct left).of_map _)).mpr ?_
  rintro ⟨key, v⟩
  constructor
  · intro member
    obtain ⟨w, inside, rfl⟩ := permuted.exists_right member
    exact inside
  · intro member
    obtain ⟨w, inside, rfl⟩ := permuted.exists_left member
    exact inside

variable [DecidableEq κ]

theorem get? (permuted : Permuted r fs gs) (left : (fs.map Prod.fst).Nodup) (key : κ) :
    Option.Rel r (Fields.get? key fs) (Fields.get? key gs) := by
  cases inFs : Fields.get? key fs with
  | some v =>
      obtain ⟨w, inside, related⟩ := permuted.exists_right (get?_mem inFs)
      rw [get?_of_mem (permuted.distinct left) inside]
      exact .some related
  | none =>
      cases inGs : Fields.get? key gs with
      | none => exact .none
      | some w =>
          obtain ⟨v, inside, _⟩ := permuted.exists_left (get?_mem inGs)
          cases inFs.symm.trans (get?_of_mem left inside)

/-- Entries with distinct keys are told by what is found under each key, but for their order. -/
theorem of_get? (left : (fs.map Prod.fst).Nodup) (right : (gs.map Prod.fst).Nodup)
    (each : ∀ key, Option.Rel r (Fields.get? key fs) (Fields.get? key gs)) : Permuted r fs gs := by
  have found : ∀ key, key ∈ fs.map Prod.fst ↔ key ∈ gs.map Prod.fst := by
    intro key
    have pair := each key
    rw [mem_keys_iff, mem_keys_iff]
    generalize Fields.get? key fs = x at pair ⊢
    generalize Fields.get? key gs = y at pair ⊢
    cases pair <;> simp
  refine ⟨(List.perm_ext_iff_of_nodup left right).mpr found, fun key v w inFs inGs => ?_⟩
  have pair := each key
  rw [get?_of_mem left inFs, get?_of_mem right inGs] at pair
  cases pair with
  | some related => exact related

theorem set (permuted : Permuted r fs gs) (left : (fs.map Prod.fst).Nodup) (key : κ) {v : α} {w : β}
    (related : r v w) : Permuted r (Fields.set key v fs) (Fields.set key w gs) := by
  refine of_get? (nodup_set left) (nodup_set (permuted.distinct left)) fun other => ?_
  by_cases same : other = key
  · subst same
    rw [get?_set_self, get?_set_self]
    exact .some related
  · rw [get?_set_of_ne same, get?_set_of_ne same]
    exact permuted.get? left other

end Permuted

end Fields

/-! ### Sorting by names -/

/-- Names are compared as texts are. -/
theorem nameAtMost_iff {a b : String} : nameAtMost a b = true ↔ a ≤ b := by
  rw [nameAtMost, decide_eq_true_iff, String.not_lt]

theorem nameAtMost_trans {a b c : String} (first : nameAtMost a b = true)
    (second : nameAtMost b c = true) : nameAtMost a c = true :=
  nameAtMost_iff.mpr (String.le_trans (nameAtMost_iff.mp first) (nameAtMost_iff.mp second))

theorem nameAtMost_total (a b : String) : (nameAtMost a b || nameAtMost b a) = true := by
  rw [Bool.or_eq_true, nameAtMost_iff, nameAtMost_iff]
  exact String.le_total _ _

section Sorting

variable {α : Type} {name : α → String} {xs ys : List α}

/-- Sorting by name leaves entries in order. -/
theorem mergeSort_name_ordered (name : α → String) (xs : List α) :
    (xs.mergeSort fun a b => nameAtMost (name a) (name b)).Pairwise
      fun a b => nameAtMost (name a) (name b) = true := by
  refine List.pairwise_mergeSort ?_ ?_ xs
  · intro a b c
    exact nameAtMost_trans
  · intro a b
    exact nameAtMost_total ..

/-- Distinct names rise strictly. -/
theorem mergeSort_name_rises (name : α → String) (distinct : (xs.map name).Nodup) :
    (xs.mergeSort fun a b => nameAtMost (name a) (name b)).Pairwise
      fun a b => name a < name b := by
  have apart := ((List.mergeSort_perm xs fun a b => nameAtMost (name a) (name b)).map
    name).nodup_iff.mpr distinct
  refine ((mergeSort_name_ordered name xs).and (List.pairwise_map.mp apart)).imp ?_
  intro a b both
  by_cases less : name a < name b
  · exact less
  · exact absurd (String.le_antisymm (nameAtMost_iff.mp both.1) (String.not_lt.mp less)) both.2

/-- What has distinct names is sorted by them in one way only. -/
theorem mergeSort_name_eq_of_perm (perm : xs.Perm ys) (distinct : (xs.map name).Nodup) :
    (xs.mergeSort fun a b => nameAtMost (name a) (name b)) =
      ys.mergeSort fun a b => nameAtMost (name a) (name b) := by
  have same : (xs.mergeSort fun a b => nameAtMost (name a) (name b)).Perm
      (ys.mergeSort fun a b => nameAtMost (name a) (name b)) :=
    ((List.mergeSort_perm xs _).trans perm).trans (List.mergeSort_perm ys _).symm
  refine List.Perm.eq_of_pairwise ?_ (mergeSort_name_ordered name xs)
    (mergeSort_name_ordered name ys) same
  intro a b inXs inYs first second
  have names : name a = name b :=
    String.le_antisymm (nameAtMost_iff.mp first) (nameAtMost_iff.mp second)
  exact List.inj_on_of_nodup_map distinct (List.mem_mergeSort.mp inXs)
    (perm.mem_iff.mpr (List.mem_mergeSort.mp inYs)) names

end Sorting

namespace Value

/-! ### Values in another order -/

/-- The same value, but for the order of keys at every depth. -/
inductive Reordered : Value → Value → Prop where
  | scalar {v : Value} (plain : v.isScalar = true) : Reordered v v
  | list {xs ys : List Value} : List.Forall₂ Reordered xs ys → Reordered (.list xs) (.list ys)
  | object {fs gs : List (Key × Value)} :
      (fs.map Prod.fst).Perm (gs.map Prod.fst) →
      (∀ key v w, (key, v) ∈ fs → (key, w) ∈ gs → Reordered v w) →
      Reordered (.object fs) (.object gs)

/-- Objects are reordered where their fields are permuted. -/
theorem reordered_object_iff {fs gs : List (Key × Value)} :
    Reordered (.object fs) (.object gs) ↔ Fields.Permuted Reordered fs gs := by
  constructor
  · intro reordered
    cases reordered with
    | scalar plain => cases plain
    | object keys each => exact ⟨keys, each⟩
  · rintro ⟨keys, each⟩
    exact .object keys each

/-- Keys of keyed objects are told apart by their names. -/
theorem Keyed.name_inj {fields : List (Key × Value)} (keyed : Keyed (.object fields)) :
    ∀ k ∈ fields.map Prod.fst, ∀ l ∈ fields.map Prod.fst, k.name = l.name → k = l := by
  have texts : ∀ k ∈ fields.map Prod.fst, k = .text k.name := by
    intro k member
    obtain ⟨entry, inside, rfl⟩ := List.mem_map.mp member
    obtain ⟨name, text⟩ := keyed.texts entry inside
    rw [text]
    rfl
  intro k inside l inside' same
  rw [texts k inside, texts l inside', same]

section Keyed

variable {a b c d v w : Value}

/-- Every keyed value is a reordering of itself. -/
theorem Reordered.refl (keyed : v.Keyed) : v.Reordered v := by
  induction keyed with
  | scalar plain => exact .scalar plain
  | list _ ih => exact .list (List.forall₂_same.mpr ih)
  | object distinct _ _ ih =>
      refine .object (.refl _) fun key v w inside inside' => ?_
      cases (Fields.get?_of_mem distinct inside).symm.trans (Fields.get?_of_mem distinct inside')
      exact ih _ inside

/-- The entries of a keyed object may be given in any order. -/
theorem Reordered.of_perm {fs gs : List (Key × Value)} (keyed : Keyed (.object fs))
    (perm : fs.Perm gs) : Reordered (.object fs) (.object gs) := by
  refine .object (perm.map _) fun key v w inFs inGs => ?_
  have inside := perm.mem_iff.mpr inGs
  cases (Fields.get?_of_mem keyed.distinct inFs).symm.trans
    (Fields.get?_of_mem keyed.distinct inside)
  exact .refl (keyed.values _ inside)

/-- Reordering keeps keys distinct. -/
theorem Reordered.keyed (reordered : v.Reordered w) (keyed : v.Keyed) : w.Keyed := by
  induction keyed generalizing w with
  | scalar plain =>
      cases reordered with
      | scalar => exact .scalar plain
      | list => cases plain
      | object => cases plain
  | list _ ih =>
      cases reordered with
      | scalar plain => cases plain
      | list items =>
          refine .list fun y member => ?_
          obtain ⟨x, inside, related⟩ := exists_left_of_forall₂ items member
          exact ih x inside related
  | object distinct texts _ ih =>
      cases reordered with
      | scalar plain => cases plain
      | @object _ gs keys each =>
          have permuted : Fields.Permuted Reordered _ gs := ⟨keys, each⟩
          refine .object (permuted.distinct distinct) (fun ⟨key, w⟩ member => ?_)
            fun ⟨key, w⟩ member => ?_
          · obtain ⟨v, inside, _⟩ := permuted.exists_left member
            have text := texts (key, v) inside
            exact text
          · obtain ⟨v, inside, related⟩ := permuted.exists_left member
            exact ih _ inside related

/-! ### Comparisons -/

/-- A reordering agrees with the value it reorders. -/
theorem Reordered.agrees (reordered : v.Reordered w) (keyed : v.Keyed) : v.agrees w = true := by
  have right := reordered.keyed keyed
  induction keyed generalizing w with
  | scalar plain =>
      cases reordered with
      | scalar => exact (agrees_scalar_iff plain).mpr (.inl rfl)
      | list => cases plain
      | object => cases plain
  | list _ ih =>
      cases reordered with
      | scalar plain => cases plain
      | list items =>
          refine agreesItems_iff.mpr (forall₂_imp_of_mem (fun x inX y inY related => ?_) items)
          exact ih x inX related (right.items y inY)
  | object distinct texts each ih =>
      cases reordered with
      | scalar plain => cases plain
      | @object _ gs keys related =>
          have permuted : Fields.Permuted Reordered _ gs := ⟨keys, related⟩
          refine (agrees_object_iff (.object distinct texts each) right).mpr
            ⟨by simpa using keys.length_eq, fun ⟨key, v⟩ member => ?_⟩
          obtain ⟨w, inside, same⟩ := permuted.exists_right member
          exact ⟨w, inside, ih _ member same (right.values _ inside)⟩

/-- Agreement is an equivalence of keyed values, so it does not see the order of keys. -/
theorem Reordered.agrees_congr (left : a.Reordered b) (right : c.Reordered d) (keyedA : a.Keyed)
    (keyedC : c.Keyed) : a.agrees c = b.agrees d := by
  have keyedB := left.keyed keyedA
  have keyedD := right.keyed keyedC
  have same := left.agrees keyedA
  have same' := right.agrees keyedC
  rw [Bool.eq_iff_iff]
  constructor
  · intro agree
    exact agrees_trans keyedB keyedA keyedD (agrees_symm keyedA keyedB same)
      (agrees_trans keyedA keyedC keyedD agree same')
  · intro agree
    exact agrees_trans keyedA keyedB keyedC same
      (agrees_trans keyedB keyedD keyedC agree (agrees_symm keyedC keyedD same'))

theorem Reordered.position?_eq (reordered : v.Reordered w) : v.position? = w.position? := by
  cases reordered <;> rfl

theorem Reordered.less_congr (left : a.Reordered b) (right : c.Reordered d) :
    a.less c = b.less d := by
  rw [less, less, left.position?_eq, right.position?_eq]

theorem Reordered.sameNumber_congr (left : a.Reordered b) (right : c.Reordered d) :
    a.sameNumber c = b.sameNumber d := by
  rw [sameNumber, sameNumber, left.position?_eq, right.position?_eq]

/-- A value of another kind than the right one is strictly equal to none of its orders. -/
theorem Reordered.strictEq_scalar (plain : a.isScalar = true) (right : c.Reordered d) :
    a.strictEq c = a.strictEq d := by
  cases right with
  | scalar => rfl
  | list => cases a <;> cases plain <;> rfl
  | object => cases a <;> cases plain <;> rfl

/-- Lists are compared item by item. -/
theorem Reordered.strictEqItems_congr {xs ys zs ws : List Value}
    (left : List.Forall₂ Reordered xs ys) (right : List.Forall₂ Reordered zs ws)
    (keyed : ∀ z ∈ zs, z.Keyed)
    (each : ∀ x ∈ xs, ∀ {b c d : Value}, x.Reordered b → c.Reordered d → c.Keyed →
      x.strictEq c = b.strictEq d) : strictEqItems xs zs = strictEqItems ys ws := by
  induction left generalizing zs ws with
  | nil => cases right <;> rfl
  | cons first _ ih =>
      cases right with
      | nil => rfl
      | cons second rest =>
          obtain ⟨here, later⟩ := List.forall_mem_cons.mp keyed
          obtain ⟨one, others⟩ := List.forall_mem_cons.mp each
          rw [strictEqItems, strictEqItems, one first second here, ih rest later others]

/-- Strict equality does not see the order of keys. -/
theorem Reordered.strictEq_congr (left : a.Reordered b) (right : c.Reordered d) (keyedA : a.Keyed)
    (keyedC : c.Keyed) : a.strictEq c = b.strictEq d := by
  induction keyedA generalizing b c d with
  | scalar plain =>
      cases left with
      | scalar => exact right.strictEq_scalar plain
      | list => cases plain
      | object => cases plain
  | @list xs _ ih =>
      cases left with
      | scalar plain => cases plain
      | @list _ ys items =>
          cases right with
          | scalar plain => cases c <;> cases plain <;> rfl
          | object => rfl
          | @list zs ws others =>
              exact strictEqItems_congr items others keyedC.items ih
  | object distinct texts each _ =>
      cases left with
      | scalar plain => cases plain
      | object keys related =>
          cases right with
          | scalar plain => cases c <;> cases plain <;> rfl
          | list => rfl
          | object keys' related' =>
              exact Reordered.agrees_congr (.object keys related) (.object keys' related')
                (.object distinct texts each) keyedC

/-- So membership does not. -/
theorem Reordered.hasItem_congr {xs ys : List Value} (left : List.Forall₂ Reordered xs ys)
    (right : v.Reordered w) (keyedXs : ∀ x ∈ xs, x.Keyed) (keyedV : v.Keyed) :
    hasItem xs v = hasItem ys w := by
  induction left with
  | nil => rfl
  | cons first _ ih =>
      obtain ⟨here, later⟩ := List.forall_mem_cons.mp keyedXs
      have rest := ih later
      unfold hasItem at rest ⊢
      rw [List.any_cons, List.any_cons, first.strictEq_congr right here keyedV, rest]

/-- What is an item of a list does not depend on the order of keys. -/
theorem Reordered.isItemOf_congr (left : a.Reordered b) (right : c.Reordered d)
    (keyedA : a.Keyed) (keyedC : c.Keyed) : a.isItemOf c = b.isItemOf d := by
  cases right with
  | scalar plain => cases c <;> cases plain <;> rfl
  | object => rfl
  | list items => exact hasItem_congr items left keyedC.items keyedA

/-! ### Canonical forms -/

theorem writtenItems_eq (items : List Value) : writtenItems items = items.map written := by
  induction items with
  | nil => rfl
  | cons v rest ih => rw [writtenItems, ih, List.map_cons]

theorem canonicalItems_eq (items : List Value) : canonicalItems items = items.map canonical := by
  induction items with
  | nil => rfl
  | cons v rest ih => rw [canonicalItems, ih, List.map_cons]

/-- Text keys are written as they are. -/
theorem writtenFields_eq {fields : List (Key × Value)}
    (texts : ∀ entry ∈ fields, ∃ name, entry.1 = .text name) :
    writtenFields fields = fields.map fun entry => (entry.1, entry.2.written) := by
  induction fields with
  | nil => rfl
  | cons entry rest ih =>
      obtain ⟨k, v⟩ := entry
      obtain ⟨⟨name, rfl⟩, others⟩ := List.forall_mem_cons.mp texts
      rw [writtenFields, ih others]
      rfl

/-- Under text keys each field is made canonical on its own. -/
theorem canonicalFields_eq {fields : List (Key × Value)}
    (texts : ∀ entry ∈ fields, ∃ name, entry.1 = .text name) :
    canonicalFields fields = fields.map fun entry => (entry.1, entry.2.canonical) := by
  induction fields with
  | nil => rfl
  | cons entry rest ih =>
      obtain ⟨k, v⟩ := entry
      obtain ⟨⟨name, rfl⟩, others⟩ := List.forall_mem_cons.mp texts
      rw [canonicalFields, ih others]
      rfl

theorem map_fst_map {f : Value → Value} (fields : List (Key × Value)) :
    (fields.map fun entry => (entry.1, f entry.2)).map Prod.fst = fields.map Prod.fst := by
  rw [List.map_map]
  rfl

theorem written_object {fields : List (Key × Value)} (keyed : Keyed (.object fields)) :
    (Value.object fields).written =
      .object (fields.map fun entry => (entry.1, entry.2.written)) := by
  rw [written, writtenFields_eq keyed.texts, Fields.ofList_of_nodup]
  exact (map_fst_map fields).symm ▸ keyed.distinct

theorem isScalar_written (plain : v.isScalar = true) : v.written.isScalar = true := by
  cases v with
  | float x =>
      unfold written
      split <;> rfl
  | list => cases plain
  | object => cases plain
  | _ => rfl

/-- What is written is keyed. -/
theorem Keyed.written (keyed : v.Keyed) : v.written.Keyed := by
  induction keyed with
  | scalar plain => exact .scalar (isScalar_written plain)
  | list _ ih =>
      rw [Value.written, writtenItems_eq]
      exact .list (List.forall_mem_map.mpr ih)
  | @object fields distinct texts each ih =>
      rw [written_object (.object distinct texts each)]
      refine .object ((map_fst_map fields).symm ▸ distinct) ?_ ?_
      · exact List.forall_mem_map.mpr texts
      · exact List.forall_mem_map.mpr ih

/-- Reorderings are written as reorderings. -/
theorem Reordered.written (reordered : v.Reordered w) (keyed : v.Keyed) :
    v.written.Reordered w.written := by
  have right := reordered.keyed keyed
  induction keyed generalizing w with
  | scalar plain =>
      cases reordered with
      | scalar => exact .scalar (isScalar_written plain)
      | list => cases plain
      | object => cases plain
  | list _ ih =>
      cases reordered with
      | scalar plain => cases plain
      | list items =>
          rw [Value.written, Value.written, writtenItems_eq, writtenItems_eq]
          refine .list (List.forall₂_map_left_iff.mpr (List.forall₂_map_right_iff.mpr ?_))
          refine forall₂_imp_of_mem (fun x inX y inY related => ?_) items
          exact ih x inX related (right.items y inY)
  | object distinct texts each ih =>
      cases reordered with
      | scalar plain => cases plain
      | @object _ gs keys related =>
          rw [written_object (.object distinct texts each), written_object right]
          have permuted : Fields.Permuted Reordered _ gs := ⟨keys, related⟩
          obtain ⟨keys, values⟩ := permuted.map (f := Value.written) (g := Value.written)
            (s := Reordered) fun entry inFs other inGs related =>
              ih entry inFs related (right.values other inGs)
          exact .object keys values

def sortedEntries (fields : List (Key × Value)) : List (Key × Value) :=
  fields.mergeSort fun a b => nameAtMost a.1.name b.1.name

/-- A canonical object has its canonical fields sorted. -/
theorem canonical_object {fields : List (Key × Value)} (distinct : (fields.map Prod.fst).Nodup)
    (texts : ∀ entry ∈ fields, ∃ name, entry.1 = .text name) :
    (Value.object fields).canonical =
      .object (sortedEntries (fields.map fun entry => (entry.1, entry.2.canonical))) := by
  rw [canonical, canonicalFields_eq texts, Fields.ofList_of_nodup]
  · rfl
  · refine ((List.mergeSort_perm _ _).map Prod.fst).nodup_iff.mpr ?_
    exact (map_fst_map fields).symm ▸ distinct

/-- Distinct texts have distinct names as keys. -/
theorem nodup_names {fields : List (Key × Value)} (distinct : (fields.map Prod.fst).Nodup)
    (texts : ∀ entry ∈ fields, ∃ name, entry.1 = .text name) :
    (fields.map fun entry => entry.1.name).Nodup := by
  have keys : (fields.map fun entry => entry.1.name) = (fields.map Prod.fst).map Key.name := by
    rw [List.map_map]
    rfl
  rw [keys]
  refine distinct.map_on ?_
  intro k inside l inside' same
  obtain ⟨entry, member, rfl⟩ := List.mem_map.mp inside
  obtain ⟨other, member', rfl⟩ := List.mem_map.mp inside'
  obtain ⟨name, text⟩ := texts entry member
  obtain ⟨name', text'⟩ := texts other member'
  rw [text, text'] at same ⊢
  exact congrArg Key.text same

/-- Entries with distinct texts as their keys are sorted in one way only. -/
theorem sortedEntries_eq_of_perm {fs gs : List (Key × Value)} (perm : fs.Perm gs)
    (distinct : (fs.map Prod.fst).Nodup) (texts : ∀ entry ∈ fs, ∃ name, entry.1 = .text name) :
    sortedEntries fs = sortedEntries gs :=
  mergeSort_name_eq_of_perm perm (nodup_names distinct texts)

/-- Values in another order have one canonical form. -/
theorem Reordered.canonical_eq (reordered : v.Reordered w) (keyed : v.Keyed) :
    v.canonical = w.canonical := by
  have right := reordered.keyed keyed
  induction keyed generalizing w with
  | scalar plain =>
      cases reordered with
      | scalar => rfl
      | list => cases plain
      | object => cases plain
  | list _ ih =>
      cases reordered with
      | scalar plain => cases plain
      | list items =>
          rw [canonical, canonical, canonicalItems_eq, canonicalItems_eq]
          refine congrArg Value.list (List.forall₂_eq_eq_eq ▸ ?_)
          refine List.forall₂_map_left_iff.mpr (List.forall₂_map_right_iff.mpr ?_)
          refine forall₂_imp_of_mem (fun x inX y inY related => ?_) items
          exact ih x inX related (right.items y inY)
  | @object fields distinct texts each ih =>
      cases reordered with
      | scalar plain => cases plain
      | @object _ gs keys related =>
          have permuted : Fields.Permuted Reordered fields gs := ⟨keys, related⟩
          have entries := (permuted.map (f := canonical) (g := canonical) (s := Eq)
            fun entry inFs other inGs related =>
              ih entry inFs related (right.values other inGs)).perm
            ((map_fst_map fields).symm ▸ distinct)
          rw [canonical_object distinct texts, canonical_object right.distinct right.texts]
          refine congrArg Value.object (sortedEntries_eq_of_perm entries ?_ ?_)
          · exact (map_fst_map fields).symm ▸ distinct
          · exact List.forall_mem_map.mpr texts

/-- What is written of such values has one canonical form too. -/
theorem Reordered.canonical_written (reordered : v.Reordered w) (keyed : v.Keyed) :
    v.written.canonical = w.written.canonical :=
  (reordered.written keyed).canonical_eq keyed.written

end Keyed

/-- The value is keyed, and the other one is the same but for the order of keys. -/
structure Turned (v w : Value) : Prop where
  keyed : v.Keyed
  reordered : v.Reordered w

namespace Turned

variable {v w : Value}

theorem refl (keyed : v.Keyed) : v.Turned v := ⟨keyed, .refl keyed⟩

theorem scalar (plain : v.isScalar = true) : v.Turned v := .refl (.scalar plain)

theorem canonical_written (turned : v.Turned w) : v.written.canonical = w.written.canonical :=
  turned.reordered.canonical_written turned.keyed

/-- A field set to turned values keeps the objects turned. -/
theorem set {fs gs : List (Key × Value)} (turned : (object fs).Turned (object gs)) (name : String)
    (value : v.Turned w) :
    (object (Fields.set (.text name) v fs)).Turned (object (Fields.set (.text name) w gs)) where
  keyed := turned.keyed.set value.keyed
  reordered := reordered_object_iff.mpr ((reordered_object_iff.mp turned.reordered).set
    turned.keyed.distinct (.text name) value.reordered)

theorem of_option {x y : Option Value} (pair : Option.Rel Reordered x y)
    (keyed : ∀ v ∈ x, v.Keyed) : Option.Rel Turned x y := by
  cases pair with
  | none => exact .none
  | some related => exact .some ⟨keyed _ rfl, related⟩

end Turned

/-! ### Records -/

theorem record_eq (fs : List (String × Value)) :
    record fs = .object (fs.map fun entry => (Key.text entry.1, entry.2)) :=
  rfl

/-- The canonical form of a record is made of those of its entries. -/
theorem canonical_record_congr {fs gs : List (String × Value)}
    (same : fs.map (fun entry => (entry.1, entry.2.canonical)) =
      gs.map fun entry => (entry.1, entry.2.canonical)) :
    (record fs).canonical = (record gs).canonical := by
  have fields : ∀ entries : List (String × Value),
      canonicalFields (entries.map fun entry => (Key.text entry.1, entry.2)) =
        (entries.map fun entry => (entry.1, entry.2.canonical)).map
          fun entry => (Key.text entry.1, entry.2) := by
    intro entries
    induction entries with
    | nil => rfl
    | cons entry rest ih =>
        rw [List.map_cons, List.map_cons, List.map_cons, canonicalFields, ih]
        rfl
  rw [record_eq, record_eq, canonical, canonical, fields, fields, same]

/-- The entries of a record stand in the order of their names in its canonical form. -/
theorem canonical_record_of_perm {fs gs : List (String × Value)} (perm : fs.Perm gs)
    (distinct : (fs.map Prod.fst).Nodup)
    (sorted : (gs.map Prod.fst).Pairwise fun a b => nameAtMost a b = true) :
    (record fs).canonical = record (gs.map fun entry => (entry.1, entry.2.canonical)) := by
  have texts : ∀ entry ∈ fs.map fun entry => (Key.text entry.1, entry.2),
      ∃ name, entry.1 = .text name :=
    List.forall_mem_map.mpr fun entry _ => ⟨entry.1, rfl⟩
  have names : ((fs.map fun entry => (Key.text entry.1, entry.2)).map Prod.fst).Nodup := by
    have keys := distinct.map (f := Key.text) fun _ _ => Key.text.inj
    rwa [List.map_map] at keys ⊢
  have written := perm.map fun entry => (Key.text entry.1, entry.2.canonical)
  rw [record_eq, record_eq, canonical_object names texts, List.map_map]
  refine congrArg object ((sortedEntries_eq_of_perm written ?_ ?_).trans ?_)
  · rwa [List.map_map] at names ⊢
  · exact List.forall_mem_map.mpr fun entry _ => ⟨entry.1, rfl⟩
  · rw [List.map_map]
    exact List.mergeSort_of_pairwise (List.pairwise_map.mpr (List.pairwise_map.mp sorted))

/-- The entry with the smallest name comes first. -/
theorem canonical_record_first {fs : List (String × Value)} {name : String} {v : Value}
    (member : (name, v) ∈ fs) (distinct : (fs.map Prod.fst).Nodup)
    (smallest : ∀ other ∈ fs.map Prod.fst, nameAtMost name other = true) :
    ∃ rest, (record fs).canonical = record ((name, v.canonical) :: rest) := by
  obtain ⟨before, after, rfl⟩ := List.append_of_mem member
  have perm : (before ++ (name, v) :: after).Perm
      ((name, v) :: (before ++ after).mergeSort fun a b => nameAtMost a.1 b.1) :=
    List.perm_middle.trans (.cons _ (List.mergeSort_perm ..).symm)
  refine ⟨_, canonical_record_of_perm perm distinct (List.pairwise_cons.mpr ⟨?_, ?_⟩)⟩
  · intro other inside
    exact smallest other ((perm.map Prod.fst).mem_iff.mpr (List.mem_cons_of_mem _ inside))
  · refine List.pairwise_map.mpr (List.pairwise_mergeSort ?_ ?_ _)
    · exact fun _ _ _ => nameAtMost_trans
    · exact fun _ _ => nameAtMost_total ..

theorem canonical_list_congr {xs ys : List Value} (same : xs.map canonical = ys.map canonical) :
    (Value.list xs).canonical = (Value.list ys).canonical := by
  rw [canonical, canonical, canonicalItems_eq, canonicalItems_eq, same]

end Value

end Rulebook
