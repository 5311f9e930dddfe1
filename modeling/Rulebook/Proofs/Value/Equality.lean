import Mathlib.Data.List.Forall2
import Mathlib.Data.List.Nodup
import Mathlib.Data.List.Perm.Subperm
import Rulebook.Value.Equality

/-!
Equality of values as a relation.

`agrees` and `strictEq` are computed along the left value. On trees in whose objects no key finds
two entries both are symmetric and transitive, and so on those with text keys, each key once; a
`nan` equals nothing, so `strictEq` is reflexive only up to identity. `Alike` adds identity, and
values that are alike cannot be told apart by any comparison but that of their texts
(`Alike.strictEq_congr`).
-/

namespace Rulebook

/-! ### Trees of values -/

namespace Value

def isScalar : Value → Bool
  | .list _ | .object _ => false
  | _ => true

theorem isScalar_of_isNumber {v : Value} (number : v.isNumber = true) : v.isScalar = true := by
  cases v <;> cases number <;> rfl

/-- Objects have text keys, each of them once, at every depth. -/
inductive Keyed : Value → Prop where
  | scalar {v : Value} (plain : v.isScalar = true) : Keyed v
  | list {items : List Value} (each : ∀ v ∈ items, Keyed v) : Keyed (.list items)
  | object {fields : List (Key × Value)} (distinct : (fields.map Prod.fst).Nodup)
      (texts : ∀ entry ∈ fields, ∃ name, entry.1 = .text name)
      (each : ∀ entry ∈ fields, Keyed entry.2) : Keyed (.object fields)

theorem Keyed.items {items : List Value} (keyed : Keyed (.list items)) : ∀ v ∈ items, Keyed v := by
  cases keyed with
  | scalar plain => cases plain
  | list each => exact each

theorem Keyed.distinct {fields : List (Key × Value)} (keyed : Keyed (.object fields)) :
    (fields.map Prod.fst).Nodup := by
  cases keyed with
  | scalar plain => cases plain
  | object distinct => exact distinct

theorem Keyed.texts {fields : List (Key × Value)} (keyed : Keyed (.object fields)) :
    ∀ entry ∈ fields, ∃ name, entry.1 = .text name := by
  cases keyed with
  | scalar plain => cases plain
  | object _ texts => exact texts

theorem Keyed.values {fields : List (Key × Value)} (keyed : Keyed (.object fields)) :
    ∀ entry ∈ fields, Keyed entry.2 := by
  cases keyed with
  | scalar plain => cases plain
  | object _ _ each => exact each

/-- No key finds two entries of an object, at any depth; the keys may be any scalars. -/
inductive WellKeyed : Value → Prop where
  | scalar {v : Value} (plain : v.isScalar = true) : WellKeyed v
  | list {items : List Value} (each : ∀ v ∈ items, WellKeyed v) : WellKeyed (.list items)
  | object {fields : List (Key × Value)}
      (apart : fields.Pairwise fun entry other => entry.1.same other.1 = false)
      (each : ∀ entry ∈ fields, WellKeyed entry.2) : WellKeyed (.object fields)

theorem WellKeyed.items {items : List Value} (wellKeyed : WellKeyed (.list items)) :
    ∀ v ∈ items, WellKeyed v := by
  cases wellKeyed with
  | scalar plain => cases plain
  | list each => exact each

theorem WellKeyed.apart {fields : List (Key × Value)} (wellKeyed : WellKeyed (.object fields)) :
    fields.Pairwise fun entry other => entry.1.same other.1 = false := by
  cases wellKeyed with
  | scalar plain => cases plain
  | object apart => exact apart

theorem WellKeyed.values {fields : List (Key × Value)} (wellKeyed : WellKeyed (.object fields)) :
    ∀ entry ∈ fields, WellKeyed entry.2 := by
  cases wellKeyed with
  | scalar plain => cases plain
  | object _ each => exact each

end Value

/-- A text finds itself alone among texts. -/
@[simp] theorem Key.same_text (s t : String) : (Key.text s).same (.text t) = decide (s = t) := by
  simp [Key.same, Key.toValue, Value.looseOf?, Value.position?]

@[simp] theorem Key.same_self (key : Key) : key.same key = true := by
  simp [Key.same]

/-- What a key is found by: its place on the number line, where booleans count as 0 and 1, or
else the key itself. -/
def Key.spot (key : Key) : Position ⊕ Key :=
  match key.toValue.looseOf? with
  | some p => .inl p
  | none => .inr key

/-- Keys are the same where they fall on one spot. -/
theorem Key.same_iff {k l : Key} : k.same l = true ↔ k.spot = l.spot := by
  unfold same spot
  constructor
  · intro found
    by_cases equal : k = l
    · rw [equal]
    · cases atK : k.toValue.looseOf? <;> cases atL : l.toValue.looseOf? <;>
        simp_all
  · intro spots
    cases atK : k.toValue.looseOf? <;> cases atL : l.toValue.looseOf? <;>
      simp_all

/-- Distinct texts fall on distinct spots. -/
theorem Value.Keyed.wellKeyed {v : Value} (keyed : v.Keyed) : v.WellKeyed := by
  induction keyed with
  | scalar plain => exact .scalar plain
  | list _ ih => exact .list ih
  | object distinct texts _ ih =>
      refine .object ((List.pairwise_map.mp distinct).imp_of_mem ?_) ih
      intro entry other inFirst inSecond differs
      obtain ⟨name, first⟩ := texts entry inFirst
      obtain ⟨name', second⟩ := texts other inSecond
      rw [first, second] at differs ⊢
      simpa using differs

/-! ### Looking entries up -/

namespace Fields

section Lookup

variable {κ α : Type} [DecidableEq κ] {key : κ} {value : α} {fields : List (κ × α)}

/-- What is looked up stands among the fields, -/
theorem get?_mem (found : get? key fields = some value) : (key, value) ∈ fields := by
  induction fields with
  | nil => simp [get?] at found
  | cons entry rest ih =>
      obtain ⟨k, v⟩ := entry
      by_cases same : k = key
      · simp only [get?, same, if_pos, Option.some.injEq] at found
        simp [same, found]
      · rw [get?, if_neg same] at found
        exact List.mem_cons_of_mem _ (ih found)

/-- and a key that stands there is found. -/
theorem exists_get?_of_mem (present : key ∈ fields.map Prod.fst) :
    ∃ value, get? key fields = some value := by
  induction fields with
  | nil => cases present
  | cons entry rest ih =>
      obtain ⟨k, v⟩ := entry
      by_cases same : k = key
      · exact ⟨v, by simp [get?, same]⟩
      · rw [get?, if_neg same]
        exact ih ((List.mem_cons.mp present).resolve_left (Ne.symm same))

/-- Under distinct keys every entry is found. -/
theorem get?_of_mem (distinct : (fields.map Prod.fst).Nodup) (member : (key, value) ∈ fields) :
    get? key fields = some value := by
  induction fields with
  | nil => cases member
  | cons entry rest ih =>
      obtain ⟨k, v⟩ := entry
      rw [List.map_cons, List.nodup_cons] at distinct
      rcases List.mem_cons.mp member with first | later
      · cases first
        simp [get?]
      · have differs : k ≠ key := by
          rintro rfl
          exact distinct.1 (List.mem_map.mpr ⟨_, later, rfl⟩)
        rw [get?, if_neg differs]
        exact ih distinct.2 later

omit [DecidableEq κ] in
/-- Where all keys are among others, an entry has a counterpart. -/
theorem exists_counterpart {fs gs : List (κ × α)} {entry : κ × α}
    (names : fs.map Prod.fst ⊆ gs.map Prod.fst) (member : entry ∈ fs) :
    ∃ w, (entry.1, w) ∈ gs := by
  obtain ⟨⟨k, w⟩, inside, rfl⟩ := List.mem_map.mp (names (List.mem_map_of_mem member))
  exact ⟨w, inside⟩

/-- A lookup goes on behind what it did not find. -/
theorem get?_append (before after : List (κ × α)) :
    get? key (before ++ after) = (get? key before).or (get? key after) := by
  induction before with
  | nil => rfl
  | cons entry rest ih =>
      obtain ⟨k, v⟩ := entry
      by_cases here : k = key
      · simp [get?, here]
      · simp [get?, here, ih]

/-- Leaving out what is under another key. -/
theorem get?_filter_ne {other : κ} (apart : key ≠ other) :
    get? key (fields.filter fun entry => entry.1 ≠ other) = get? key fields := by
  induction fields with
  | nil => rfl
  | cons entry rest ih =>
      obtain ⟨k, v⟩ := entry
      by_cases kept : k = other
      · have absent : k ≠ key := fun here => apart (here.symm.trans kept)
        rw [List.filter_cons_of_neg (by simp [kept]), ih, get?, if_neg absent]
      · rw [List.filter_cons_of_pos (by simpa using kept), get?, get?, ih]

end Lookup

/-- The keys of entries with texts for keys. -/
theorem map_fst_texts (fields : List (String × Value)) :
    (fields.map fun (name, v) => (Key.text name, v)).map Prod.fst =
      (fields.map Prod.fst).map Key.text := by
  rw [List.map_map, List.map_map]
  rfl

/-- A text finds the entry that has it as its key. -/
theorem find?_text (name : String) (fields : List (Key × Value)) :
    find? (.text name) fields = get? (Key.text name) fields := by
  induction fields with
  | nil => rfl
  | cons entry rest ih =>
      obtain ⟨k, v⟩ := entry
      have same : k.same (.text name) = decide (k = .text name) := by
        simp only [Key.same, Key.toValue, Value.looseOf?, Value.position?]
        split <;> simp_all
      simp only [find?, get?, same, decide_eq_true_eq, ih]

/-- An entry found by its spot stands among the fields under a key of that spot. -/
theorem find?_mem {key : Key} {value : Value} {fields : List (Key × Value)}
    (found : find? key fields = some value) : ∃ k, k.spot = key.spot ∧ (k, value) ∈ fields := by
  induction fields with
  | nil => cases found
  | cons entry rest ih =>
      obtain ⟨k, v⟩ := entry
      by_cases here : k.same key = true
      · rw [find?, if_pos here] at found
        cases found
        exact ⟨k, Key.same_iff.mp here, List.mem_cons_self⟩
      · rw [find?, if_neg here] at found
        obtain ⟨l, same, inside⟩ := ih found
        exact ⟨l, same, List.mem_cons_of_mem _ inside⟩

/-- Where no key finds two entries, each entry is found by whatever key finds its own. -/
theorem find?_of_mem {key k : Key} {value : Value} {fields : List (Key × Value)}
    (apart : fields.Pairwise fun entry other => entry.1.same other.1 = false)
    (member : (k, value) ∈ fields) (same : k.spot = key.spot) :
    find? key fields = some value := by
  induction fields with
  | nil => cases member
  | cons entry rest ih =>
      obtain ⟨first, later⟩ := List.pairwise_cons.mp apart
      rcases List.mem_cons.mp member with rfl | inside
      · rw [find?, if_pos (Key.same_iff.mpr same)]
      · have elsewhere : ¬ entry.1.same key = true := by
          intro here
          have both : entry.1.same k = true :=
            Key.same_iff.mpr ((Key.same_iff.mp here).trans same.symm)
          cases both.symm.trans (first _ inside)
        rw [find?, if_neg elsewhere]
        exact ih later inside

end Fields

namespace Value

/-! ### Scalars -/

/-- Scalars agree when they are the same datum, or stand at the same place. -/
theorem agrees_scalar_iff {a b : Value} (plain : a.isScalar = true) :
    agrees a b = true ↔ a = b ∨ ∃ p, a.looseOf? = some p ∧ b.looseOf? = some p := by
  have scalars : agrees a b = scalarAgrees a b := by
    cases a <;> cases plain <;> rfl
  rw [scalars]
  cases a <;> cases plain <;> cases b <;>
    simp only [scalarAgrees, looseOf?, position?, reduceCtorEq, false_or] <;>
    grind [Option.any_eq_true]

theorem isScalar_of_looseOf? {v : Value} {p : Position} (placed : v.looseOf? = some p) :
    v.isScalar = true := by
  cases v with
  | list items => cases placed
  | object fields => cases placed
  | _ => rfl

/-- Numbers are strictly equal at the same place, and other scalars when they are the same. -/
theorem strictEq_scalar_iff {a b : Value} (plain : a.isScalar = true) :
    strictEq a b = true ↔
      (a = b ∧ a.isNumber = false) ∨ ∃ p, a.position? = some p ∧ b.position? = some p := by
  cases a <;> cases plain <;> cases b <;>
    simp only [strictEq, sameNumber, position?, isNumber, reduceCtorEq] <;> grind

theorem isScalar_of_position? {v : Value} {p : Position} (placed : v.position? = some p) :
    v.isScalar = true := by
  cases v with
  | list items => cases placed
  | object fields => cases placed
  | _ => rfl

theorem looseOf?_of_position? {v : Value} {p : Position} (placed : v.position? = some p) :
    v.looseOf? = some p := by
  cases v with
  | bool flag => cases placed
  | _ => exact placed

/-! ### Lists and objects -/

theorem agreesItems_iff {xs ys : List Value} :
    agreesItems xs ys = true ↔ List.Forall₂ (fun x y => agrees x y = true) xs ys := by
  induction xs generalizing ys with
  | nil => cases ys <;> simp [agreesItems]
  | cons x xs ih => cases ys <;> simp [agreesItems, ih]

theorem strictEqItems_iff {xs ys : List Value} :
    strictEqItems xs ys = true ↔ List.Forall₂ (fun x y => strictEq x y = true) xs ys := by
  induction xs generalizing ys with
  | nil => cases ys <;> simp [strictEqItems]
  | cons x xs ih => cases ys <;> simp [strictEqItems, ih]

/-- Fields agree where each is found on the other side and agrees. -/
theorem agreesFields_iff {fs gs : List (Key × Value)} :
    agreesFields fs gs = true ↔
      ∀ entry ∈ fs, ∃ w, Fields.find? entry.1 gs = some w ∧ agrees entry.2 w = true := by
  induction fs with
  | nil => simp [agreesFields]
  | cons entry rest ih =>
      obtain ⟨k, v⟩ := entry
      simp only [agreesFields, Bool.and_eq_true, ih, List.forall_mem_cons]
      cases Fields.find? k gs <;> simp

/-- The key of an entry finds the entry with that key in another keyed object. -/
theorem Keyed.find?_eq_some_iff {fs gs : List (Key × Value)} {entry : Key × Value} {w : Value}
    (left : Keyed (.object fs)) (right : Keyed (.object gs)) (member : entry ∈ fs) :
    Fields.find? entry.1 gs = some w ↔ (entry.1, w) ∈ gs := by
  obtain ⟨name, text⟩ := left.texts entry member
  rw [text, Fields.find?_text]
  exact ⟨Fields.get?_mem, Fields.get?_of_mem right.distinct⟩

/-- Keyed objects agree when they have equally many entries and each entry of the left one
has its counterpart. -/
theorem agrees_object_iff {fs gs : List (Key × Value)} (left : Keyed (.object fs))
    (right : Keyed (.object gs)) :
    agrees (.object fs) (.object gs) = true ↔ fs.length = gs.length ∧
      ∀ entry ∈ fs, ∃ w, (entry.1, w) ∈ gs ∧ agrees entry.2 w = true := by
  simp only [agrees, Bool.and_eq_true, beq_iff_eq, agreesFields_iff]
  refine and_congr_right fun _ => forall₂_congr fun entry member => exists_congr fun w => ?_
  rw [left.find?_eq_some_iff right member]

/-- Keyed objects that agree have the same keys. -/
theorem agrees_object_keys {fs gs : List (Key × Value)} (left : Keyed (.object fs))
    (right : Keyed (.object gs)) (agree : agrees (.object fs) (.object gs) = true) :
    (fs.map Prod.fst).Perm (gs.map Prod.fst) := by
  obtain ⟨lengths, each⟩ := (agrees_object_iff left right).mp agree
  refine (List.subperm_of_subset left.distinct ?_).perm_of_length_le (by simp [lengths])
  intro k member
  obtain ⟨entry, inside, rfl⟩ := List.mem_map.mp member
  obtain ⟨w, found, _⟩ := each entry inside
  exact List.mem_map.mpr ⟨_, found, rfl⟩

/-- Objects agree when they have equally many entries and each entry of the left one has its
counterpart, under a key that finds the same. -/
theorem agrees_object_iff_spots {fs gs : List (Key × Value)} (right : WellKeyed (.object gs)) :
    agrees (.object fs) (.object gs) = true ↔ fs.length = gs.length ∧
      ∀ entry ∈ fs, ∃ k w, k.spot = entry.1.spot ∧ (k, w) ∈ gs ∧ agrees entry.2 w = true := by
  simp only [agrees, Bool.and_eq_true, beq_iff_eq, agreesFields_iff]
  refine and_congr_right fun _ => forall₂_congr fun entry _ => ?_
  constructor
  · rintro ⟨w, found, agree⟩
    obtain ⟨k, same, inside⟩ := Fields.find?_mem found
    exact ⟨k, w, same, inside, agree⟩
  · rintro ⟨k, w, same, inside, agree⟩
    exact ⟨w, Fields.find?_of_mem right.apart inside same, agree⟩

/-- The keys of objects that agree find the same. -/
theorem agrees_object_spots {fs gs : List (Key × Value)} (left : WellKeyed (.object fs))
    (right : WellKeyed (.object gs)) (agree : agrees (.object fs) (.object gs) = true) :
    (fs.map (·.1.spot)).Perm (gs.map (·.1.spot)) := by
  have once : (fs.map (·.1.spot)).Nodup := by
    refine List.pairwise_map.mpr (left.apart.imp fun differ same => ?_)
    cases (Key.same_iff.mpr same).symm.trans differ
  obtain ⟨lengths, each⟩ := (agrees_object_iff_spots right).mp agree
  refine (List.subperm_of_subset once ?_).perm_of_length_le (by simp [lengths])
  intro spot member
  obtain ⟨entry, inside, rfl⟩ := List.mem_map.mp member
  obtain ⟨k, w, same, found, _⟩ := each entry inside
  exact List.mem_map.mpr ⟨(k, w), found, same⟩

/-- What is no number agrees with itself alone. -/
theorem agrees_unplaced {v w : Value} (plain : w.isScalar = true) (unplaced : w.looseOf? = none)
    (agree : v.agrees w = true) : v = w := by
  cases scalar : v.isScalar with
  | true =>
      rcases (agrees_scalar_iff scalar).mp agree with same | ⟨p, _, atW⟩
      · exact same
      · cases unplaced.symm.trans atW
  | false => cases v <;> cases scalar <;> cases w <;> cases plain <;> cases agree

/-- A text or null that an object has under a text stands there in objects that agree with it
and have that key. -/
theorem get?_of_agrees {fs gs : List (Key × Value)} {name : String} {w : Value}
    (agree : agrees (.object fs) (.object gs) = true)
    (present : Key.text name ∈ fs.map Prod.fst) (found : Fields.get? (.text name) gs = some w)
    (plain : w.isScalar = true) (unplaced : w.looseOf? = none) :
    Fields.get? (.text name) fs = some w := by
  obtain ⟨v, inside⟩ := Fields.exists_get?_of_mem present
  simp only [agrees, Bool.and_eq_true, agreesFields_iff] at agree
  obtain ⟨x, counterpart, same⟩ := agree.2 _ (Fields.get?_mem inside)
  rw [Fields.find?_text, found] at counterpart
  cases counterpart
  have only : v = w := agrees_unplaced plain unplaced same
  rw [inside, only]

/-! ### Reflexivity, symmetry and transitivity -/

section Chains

variable {α : Type} {R S : α → α → Prop} {xs ys zs : List α}

/-- Items are compared among the members only. -/
theorem forall₂_imp_of_mem (imp : ∀ x ∈ xs, ∀ y ∈ ys, R x y → S x y)
    (related : List.Forall₂ R xs ys) : List.Forall₂ S xs ys := by
  induction related with
  | nil => exact .nil
  | cons first _ ih =>
      simp only [List.forall_mem_cons] at imp
      exact .cons (imp.1.1 first) (ih fun x inX y inY => (imp.2 x inX).2 y inY)

theorem forall₂_trans_of_mem (trans : ∀ x ∈ xs, ∀ y ∈ ys, ∀ z ∈ zs, R x y → R y z → R x z)
    (first : List.Forall₂ R xs ys) (second : List.Forall₂ R ys zs) : List.Forall₂ R xs zs := by
  induction first generalizing zs with
  | nil => exact second
  | cons one _ ih =>
      cases second with
      | cons two rest =>
          simp only [List.forall_mem_cons] at trans
          exact .cons (trans.1.1.1 one two)
            (ih (fun x inX y inY z inZ => ((trans.2 x inX).2 y inY).2 z inZ) rest)

/-- Agreement is the coarser of the two relations. -/
theorem WellKeyed.agrees_of_strictEq {a b : Value} (wellKeyed : WellKeyed a)
    (equal : strictEq a b = true) : agrees a b = true := by
  induction wellKeyed generalizing b with
  | @scalar v plain =>
      refine (agrees_scalar_iff plain).mpr ?_
      rcases (strictEq_scalar_iff plain).mp equal with ⟨same, _⟩ | ⟨p, first, second⟩
      · exact .inl same
      · exact .inr ⟨p, looseOf?_of_position? first, looseOf?_of_position? second⟩
  | list _ ih =>
      cases b with
      | list ys =>
          refine agreesItems_iff.mpr (forall₂_imp_of_mem ?_ (strictEqItems_iff.mp equal))
          exact fun x member y _ => ih x member
      | _ => cases equal
  | object =>
      cases b with
      | object gs => exact equal
      | _ => cases equal

/-- Each item on the right has a related one on the left. -/
theorem exists_left_of_forall₂ {α β : Type} {r : α → β → Prop} {xs : List α} {ys : List β} {y : β}
    (related : List.Forall₂ r xs ys) (member : y ∈ ys) : ∃ x ∈ xs, r x y := by
  induction related with
  | nil => cases member
  | cons first _ ih =>
      rcases List.mem_cons.mp member with rfl | later
      · exact ⟨_, List.mem_cons_self, first⟩
      · obtain ⟨x, inside, related⟩ := ih later
        exact ⟨x, List.mem_cons_of_mem _ inside, related⟩

end Chains

/-- Agreement is reflexive where keys are apart, -/
theorem agrees_refl {a : Value} (wellKeyed : WellKeyed a) : agrees a a = true := by
  induction wellKeyed with
  | scalar plain => exact (agrees_scalar_iff plain).mpr (.inl rfl)
  | list _ ih => exact agreesItems_iff.mpr (List.forall₂_same.mpr ih)
  | object apart _ ih =>
      simp only [agrees, beq_self_eq_true, Bool.true_and]
      refine agreesFields_iff.mpr fun entry member => ?_
      exact ⟨entry.2, Fields.find?_of_mem apart member rfl, ih entry member⟩

/-- symmetric -/
theorem WellKeyed.agrees_symm {a b : Value} (left : WellKeyed a) (right : WellKeyed b)
    (agree : agrees a b = true) : agrees b a = true := by
  induction left generalizing b with
  | scalar plain =>
      rcases (agrees_scalar_iff plain).mp agree with rfl | ⟨p, first, second⟩
      · exact agree
      · exact (agrees_scalar_iff (isScalar_of_looseOf? second)).mpr (.inr ⟨p, second, first⟩)
  | @list items _ ih =>
      cases b with
      | list others =>
          refine agreesItems_iff.mpr (forall₂_imp_of_mem ?_ (agreesItems_iff.mp agree)).flip
          intro x inX y inY
          exact ih x inX (right.items y inY)
      | _ => cases agree
  | @object fields apart each ih =>
      cases b with
      | object others =>
          have left : WellKeyed (.object fields) := .object apart each
          obtain ⟨lengths, counterparts⟩ := (agrees_object_iff_spots right).mp agree
          refine (agrees_object_iff_spots left).mpr ⟨lengths.symm, fun entry member => ?_⟩
          obtain ⟨source, inside, same⟩ := List.mem_map.mp
            ((agrees_object_spots left right agree).mem_iff.mpr (List.mem_map_of_mem member))
          obtain ⟨k, w, spot, found, agreed⟩ := counterparts source inside
          -- Spots are distinct, so an entry has one counterpart and is that of its counterpart.
          have only : w = entry.2 := Option.some.inj
            ((Fields.find?_of_mem right.apart found (spot.trans same)).symm.trans
              (Fields.find?_of_mem right.apart member rfl))
          subst only
          exact ⟨source.1, source.2, same, inside,
            ih source inside (right.values entry member) agreed⟩
      | _ => cases agree

/-- and transitive: a lookup by spot can be followed back and on. -/
theorem WellKeyed.agrees_trans {a b c : Value} (first : WellKeyed a) (second : WellKeyed b)
    (third : WellKeyed c) (one : agrees a b = true) (two : agrees b c = true) :
    agrees a c = true := by
  induction first generalizing b c with
  | scalar plain =>
      rcases (agrees_scalar_iff plain).mp one with rfl | ⟨p, atA, atB⟩
      · exact two
      · rcases (agrees_scalar_iff (isScalar_of_looseOf? atB)).mp two with rfl | ⟨q, atB', atC⟩
        · exact one
        · cases atB.symm.trans atB'
          exact (agrees_scalar_iff plain).mpr (.inr ⟨p, atA, atC⟩)
  | @list items _ ih =>
      cases b with
      | list others =>
          cases c with
          | list lasts =>
              refine agreesItems_iff.mpr (forall₂_trans_of_mem ?_ (agreesItems_iff.mp one)
                (agreesItems_iff.mp two))
              intro x inX y inY z inZ
              exact ih x inX (second.items y inY) (third.items z inZ)
          | _ => cases two
      | _ => cases one
  | @object fields apart each ih =>
      cases b with
      | object others =>
          cases c with
          | object lasts =>
              obtain ⟨lengths, left⟩ := (agrees_object_iff_spots second).mp one
              obtain ⟨lengths', right⟩ := (agrees_object_iff_spots third).mp two
              refine (agrees_object_iff_spots third).mpr
                ⟨lengths.trans lengths', fun entry member => ?_⟩
              -- An entry is followed to the middle and on to the other side.
              obtain ⟨k, v, spot, inV, agreedV⟩ := left entry member
              obtain ⟨l, w, spot', inW, agreedW⟩ := right (k, v) inV
              exact ⟨l, w, spot'.trans spot, inW,
                ih entry member (second.values _ inV) (third.values _ inW) agreedV agreedW⟩
          | _ => cases two
      | _ => cases one

/-- Strict equality is symmetric, -/
theorem WellKeyed.strictEq_symm {a b : Value} (left : WellKeyed a) (right : WellKeyed b)
    (equal : strictEq a b = true) : strictEq b a = true := by
  induction left generalizing b with
  | scalar plain =>
      rcases (strictEq_scalar_iff plain).mp equal with ⟨rfl, _⟩ | ⟨p, first, second⟩
      · exact equal
      · exact (strictEq_scalar_iff (isScalar_of_position? second)).mpr (.inr ⟨p, second, first⟩)
  | @list items _ ih =>
      cases b with
      | list others =>
          refine strictEqItems_iff.mpr (forall₂_imp_of_mem ?_ (strictEqItems_iff.mp equal)).flip
          intro x inX y inY
          exact ih x inX (right.items y inY)
      | _ => cases equal
  | object apart each _ =>
      cases b with
      | object others => exact WellKeyed.agrees_symm (.object apart each) right equal
      | _ => cases equal

/-- and transitive, by the same induction. -/
theorem WellKeyed.strictEq_trans {a b c : Value} (first : WellKeyed a) (second : WellKeyed b)
    (third : WellKeyed c) (one : strictEq a b = true) (two : strictEq b c = true) :
    strictEq a c = true := by
  induction first generalizing b c with
  | scalar plain =>
      rcases (strictEq_scalar_iff plain).mp one with ⟨rfl, _⟩ | ⟨p, atA, atB⟩
      · exact two
      · rcases (strictEq_scalar_iff (isScalar_of_position? atB)).mp two with
          ⟨rfl, _⟩ | ⟨q, atB', atC⟩
        · exact one
        · cases atB.symm.trans atB'
          exact (strictEq_scalar_iff plain).mpr (.inr ⟨p, atA, atC⟩)
  | @list items _ ih =>
      cases b with
      | list others =>
          cases c with
          | list lasts =>
              refine strictEqItems_iff.mpr (forall₂_trans_of_mem ?_ (strictEqItems_iff.mp one)
                (strictEqItems_iff.mp two))
              intro x inX y inY z inZ
              exact ih x inX (second.items y inY) (third.items z inZ)
          | _ => cases two
      | _ => cases one
  | object apart each _ =>
      cases b with
      | object others =>
          cases c with
          | object lasts => exact WellKeyed.agrees_trans (.object apart each) second third one two
          | _ => cases two
      | _ => cases one

section Keyed

variable {a b c : Value}

theorem agrees_symm (left : Keyed a) (right : Keyed b) (agree : agrees a b = true) :
    agrees b a = true :=
  left.wellKeyed.agrees_symm right.wellKeyed agree

theorem agrees_trans (first : Keyed a) (second : Keyed b) (third : Keyed c)
    (one : agrees a b = true) (two : agrees b c = true) : agrees a c = true :=
  first.wellKeyed.agrees_trans second.wellKeyed third.wellKeyed one two

theorem strictEq_symm (left : Keyed a) (right : Keyed b) (equal : strictEq a b = true) :
    strictEq b a = true :=
  left.wellKeyed.strictEq_symm right.wellKeyed equal

theorem strictEq_trans (first : Keyed a) (second : Keyed b) (third : Keyed c)
    (one : strictEq a b = true) (two : strictEq b c = true) : strictEq a c = true :=
  first.wellKeyed.strictEq_trans second.wellKeyed third.wellKeyed one two

end Keyed

/-! ### Values that are alike -/

/-- The same tree, or strictly equal. -/
def Alike (a b : Value) : Prop := a = b ∨ strictEq a b = true

namespace Alike

variable {a b c d : Value}

theorem refl (a : Value) : Alike a a := .inl rfl

theorem symm (left : Keyed a) (right : Keyed b) (alike : Alike a b) : Alike b a :=
  alike.imp Eq.symm (strictEq_symm left right)

/-- Being alike is transitive among keyed values. -/
theorem trans (first : Keyed a) (second : Keyed b) (third : Keyed c) (one : Alike a b)
    (two : Alike b c) : Alike a c := by
  rcases one with rfl | one
  · exact two
  · rcases two with rfl | two
    · exact .inr one
    · exact .inr (strictEq_trans first second third one two)

/-- Strict equality does not tell alike values apart. -/
theorem strictEq_congr (keyedA : Keyed a) (keyedB : Keyed b) (keyedC : Keyed c) (keyedD : Keyed d)
    (left : Alike a b) (right : Alike c d) : strictEq a c = strictEq b d := by
  have forward : ∀ {a b c d : Value}, Keyed a → Keyed b → Keyed c → Keyed d → Alike a b →
      Alike c d → strictEq a c = true → strictEq b d = true := by
    intro a b c d keyedA keyedB keyedC keyedD left right equal
    have onLeft : strictEq b c = true := by
      rcases left with rfl | left
      · exact equal
      · exact strictEq_trans keyedB keyedA keyedC (strictEq_symm keyedA keyedB left) equal
    rcases right with rfl | right
    · exact onLeft
    · exact strictEq_trans keyedB keyedC keyedD onLeft right
  exact Bool.eq_iff_iff.mpr
    ⟨forward keyedA keyedB keyedC keyedD left right,
      forward keyedB keyedA keyedD keyedC (left.symm keyedA keyedB) (right.symm keyedC keyedD)⟩

/-- Alike values stand at the same place on the number line, or at none. -/
theorem position?_eq (alike : Alike a b) : a.position? = b.position? := by
  rcases alike with rfl | equal
  · rfl
  · cases plain : a.isScalar with
    | true =>
        rcases (strictEq_scalar_iff plain).mp equal with ⟨rfl, _⟩ | ⟨p, first, second⟩
        · rfl
        · rw [first, second]
    | false => cases a <;> cases plain <;> cases b <;> first | rfl | cases equal

theorem less_congr (left : Alike a b) (right : Alike c d) : a.less c = b.less d := by
  rw [less, less, left.position?_eq, right.position?_eq]

theorem sameNumber_congr (left : Alike a b) (right : Alike c d) :
    a.sameNumber c = b.sameNumber d := by
  rw [sameNumber, sameNumber, left.position?_eq, right.position?_eq]

/-- What is alike to a text is that text, and so for null. -/
theorem eq_of_unplaced (alike : Alike a b) (plain : a.isScalar = true)
    (unplaced : a.position? = none) :
    b = a := by
  rcases alike with rfl | equal
  · rfl
  · rcases (strictEq_scalar_iff plain).mp equal with ⟨rfl, _⟩ | ⟨p, first, _⟩
    · rfl
    · exact nomatch unplaced.symm.trans first

theorem items {xs ys : List Value} (alike : Alike (.list xs) (.list ys)) :
    List.Forall₂ Alike xs ys := by
  rcases alike with same | equal
  · cases same
    exact List.forall₂_same.mpr fun x _ => .refl x
  · exact (strictEqItems_iff.mp equal).imp fun x y => .inr

/-- A list contains what is alike to one of its items. -/
theorem hasItem_congr {xs ys : List Value} (left : Keyed (.list xs)) (right : Keyed (.list ys))
    (keyedA : Keyed a) (keyedB : Keyed b) (lists : Alike (.list xs) (.list ys))
    (alike : Alike a b) : hasItem xs a = hasItem ys b := by
  have each := lists.items
  have keyedXs := left.items
  have keyedYs := right.items
  clear lists left right
  induction each with
  | nil => rfl
  | cons first _ ih =>
      simp only [List.forall_mem_cons] at keyedXs keyedYs
      simp only [hasItem, List.any_cons] at ih ⊢
      rw [strictEq_congr keyedXs.1 keyedYs.1 keyedA keyedB first alike, ih keyedXs.2 keyedYs.2]

/-- What is alike to a list is a list. -/
theorem list_or (alike : Alike a b) :
    (∃ xs ys, a = .list xs ∧ b = .list ys) ∨ ((∀ xs, a ≠ .list xs) ∧ ∀ ys, b ≠ .list ys) := by
  rcases alike with rfl | equal
  · cases a <;> simp
  · cases a <;> cases b <;> simp [strictEq, sameNumber, position?] at equal ⊢

end Alike

end Value

/-! ### Integers -/

theorem Binary64.unitsPerOne_pos : 0 < Binary64.unitsPerOne := by decide +kernel

/-- Integers stand apart. -/
theorem Position.ofInt_inj {m n : Int} : Position.ofInt m = Position.ofInt n ↔ m = n := by
  have one : (Binary64.unitsPerOne : Int) ≠ 0 :=
    Int.natCast_ne_zero.mpr (Nat.ne_of_gt Binary64.unitsPerOne_pos)
  rw [Position.ofInt, Position.ofInt, Position.point.injEq]
  exact Int.mul_eq_mul_right_iff one

theorem bool_toInt_inj {a b : Bool} : a.toInt = b.toInt ↔ a = b := by
  cases a <;> cases b <;> decide

@[simp] theorem Value.strictEq_int (m n : Int) :
    (Value.int m).strictEq (.int n) = decide (m = n) := by
  rw [Bool.eq_iff_iff, Value.strictEq_scalar_iff rfl]
  simp [Value.isNumber, Value.position?, Position.ofInt_inj, eq_comm]

end Rulebook
