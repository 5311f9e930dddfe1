import Rulebook.Proofs.Document.JsonText
import Rulebook.Proofs.Value.Reordered

/-!
Canonical text decides equality of trees.

To be the same but for the order of keys is an equivalence of keyed values, and the canonical form
is one of the values in a class (`reordered_canonical`), the same for all of them. As the text of
the form determines it, values have the same canonical text, on one line or on many, just when
they differ in the order of keys only (`canonical_texts_decide`).
-/

namespace Rulebook

namespace Value

variable {u v w : Value}

/-! ### Values in another order -/

/-- Between documents whose keys are distinct, reordering goes both ways. -/
theorem Reordered.symm (reordered : v.Reordered w) (keyed : v.Keyed) : w.Reordered v := by
  induction keyed generalizing w with
  | scalar plain =>
      cases reordered with
      | scalar => exact .scalar plain
      | list => cases plain
      | object => cases plain
  | list _ ih =>
      cases reordered with
      | scalar plain => cases plain
      | list items =>
          refine .list (List.Forall₂.flip ?_)
          exact forall₂_imp_of_mem (fun x inside y _ related => ih x inside related) items
  | object _ _ _ ih =>
      cases reordered with
      | scalar plain => cases plain
      | object keys each =>
          exact .object keys.symm fun key w v inGs inFs => ih _ inFs (each key v w inFs inGs)

/-- Reorderings compose. -/
theorem Reordered.trans (first : u.Reordered v) (second : v.Reordered w) (keyed : u.Keyed) :
    u.Reordered w := by
  induction keyed generalizing v w with
  | scalar plain =>
      cases first with
      | scalar => exact second
      | list => cases plain
      | object => cases plain
  | list _ ih =>
      cases first with
      | scalar plain => cases plain
      | list left =>
          cases second with
          | scalar plain => cases plain
          | list right =>
              exact .list (forall₂_trans_of_mem
                (fun x inside y _ z _ one two => ih x inside one two) left right)
  | object _ _ _ ih =>
      cases first with
      | scalar plain => cases plain
      | @object _ gs keys each =>
          cases second with
          | scalar plain => cases plain
          | object keys' each' =>
              -- A field is followed to the middle and from there to the right.
              have permuted : Fields.Permuted Reordered _ gs := ⟨keys, each⟩
              refine .object (keys.trans keys') fun key v w inFs inHs => ?_
              obtain ⟨middle, inGs, related⟩ := permuted.exists_right inFs
              exact ih _ inFs related (each' key middle w inGs inHs)

/-- What holds of every part of a document holds of every part of its reordering. -/
theorem Reordered.throughout {holds : Value → Prop} (reordered : v.Reordered w)
    (throughout : v.Throughout holds) : w.Throughout holds := by
  induction throughout generalizing w with
  | scalar plain held =>
      cases reordered with
      | scalar => exact .scalar plain held
      | list => cases plain
      | object => cases plain
  | list _ ih =>
      cases reordered with
      | scalar plain => cases plain
      | list items =>
          refine .list fun y member => ?_
          obtain ⟨x, inside, related⟩ := exists_left_of_forall₂ items member
          exact ih x inside related
  | object _ ih =>
      cases reordered with
      | scalar plain => cases plain
      | @object _ gs keys each =>
          have permuted : Fields.Permuted Reordered _ gs := ⟨keys, each⟩
          refine .object fun entry member => ?_
          obtain ⟨v, inside, related⟩ := permuted.exists_left member
          exact ih _ inside related

theorem Reordered.determinate (reordered : v.Reordered w) (determinate : v.Determinate) :
    w.Determinate :=
  ⟨reordered.keyed determinate.keyed, reordered.throughout determinate.numeric⟩

/-! ### Canonical forms -/

/-- The canonical form is the value in another order. -/
theorem reordered_canonical (keyed : v.Keyed) : v.Reordered v.canonical := by
  induction keyed with
  | @scalar v plain =>
      cases v with
      | list => cases plain
      | object => cases plain
      | _ => exact .scalar rfl
  | list _ ih =>
      rw [canonical, canonicalItems_eq]
      exact .list (List.forall₂_map_right_iff.mpr (List.forall₂_same.mpr ih))
  | @object fields distinct texts _ ih =>
      have sorted : (sortedEntries (fields.map fun entry => (entry.1, entry.2.canonical))).Perm
          (fields.map fun entry => (entry.1, entry.2.canonical)) := List.mergeSort_perm _ _
      rw [canonical_object distinct texts]
      refine .object ?_ fun key v w inside member => ?_
      · have keys := (sorted.map Prod.fst).symm
        rwa [map_fst_map] at keys
      · obtain ⟨entry, inFields, same⟩ := List.mem_map.mp (sorted.mem_iff.mp member)
        cases same
        cases (Fields.get?_of_mem distinct inside).symm.trans
          (Fields.get?_of_mem distinct inFields)
        exact ih _ inside

/-- Values have one canonical form just when they differ in the order of keys only. -/
theorem canonical_eq_iff (left : v.Keyed) (right : w.Keyed) :
    v.canonical = w.canonical ↔ v.Reordered w := by
  constructor
  · intro same
    have back := (reordered_canonical right).symm right
    rw [← same] at back
    exact (reordered_canonical left).trans back left
  · intro reordered
    exact reordered.canonical_eq left

/-- The text of the canonical form, in a style that escapes no more than it has to. -/
theorem json_canonical_eq_iff {style : JsonStyle} (comma : style.itemSeparator = ",")
    (plain : style.asciiOnly = false) (left : v.Determinate) (right : w.Determinate) :
    v.canonical.json style = w.canonical.json style ↔ v.Reordered w := by
  rw [← canonical_eq_iff left.keyed right.keyed]
  constructor
  · intro same
    exact JsonText.value_injective comma plain
      ((reordered_canonical left.keyed).determinate left)
      ((reordered_canonical right.keyed).determinate right) same
  · intro same
    rw [same]

end Value

/-- Two trees have the same canonical text just when they are the same but for the order of keys,
and so it is for the text with one item a line. -/
theorem canonical_texts_decide (x y : Value) (left : x.Determinate) (right : y.Determinate) :
    (x.canonicalText = y.canonicalText ↔ x.Reordered y) ∧
      (x.canonicalLines = y.canonicalLines ↔ x.Reordered y) :=
  ⟨Value.json_canonical_eq_iff rfl rfl left right, Value.json_canonical_eq_iff rfl rfl left right⟩

def offerDocument (price : Value) : Value :=
  .record [("offer", .record [("price", .list [price]), ("note", .text "\"")])]

def turnedOfferDocument (price : Value) : Value :=
  .record [("offer", .record [("note", .text "\""), ("price", .list [price])])]

/-- The sample document is determinate, whatever scalar the price is but NaN. -/
theorem offerDocument_determinate {price : Value} (plain : price.isScalar = true)
    (number : ∀ x, price = .float x → x.isNaN = false) : (offerDocument price).Determinate := by
  constructor
  · simp [offerDocument]
    exact ⟨.scalar plain, .scalar rfl⟩
  · simp [offerDocument, Value.Numeric]
    exact ⟨.scalar plain number, .scalar rfl (by simp)⟩

/-- Its turned form permutes the keys of both objects. -/
theorem offerDocument_turned {price : Value} (keyed : (offerDocument price).Keyed) :
    (offerDocument price).Reordered (turnedOfferDocument price) := by
  refine .object (.refl _) fun key v w inside inside' => ?_
  have offer := keyed.values _ inside
  cases List.mem_singleton.mp inside
  cases List.mem_singleton.mp inside'
  exact .of_perm offer (.swap _ _ _)

/-- The order of entries is not seen in the text, and an integer is told from the number at its
place. -/
theorem offerDocument_decided :
    (offerDocument (.int 1)).Determinate ∧ (turnedOfferDocument (.int 1)).Determinate ∧
      (offerDocument (.int 1)).canonicalText = (turnedOfferDocument (.int 1)).canonicalText ∧
      (offerDocument (.int 1)).canonicalLines ≠
        (offerDocument (.float (.ofInt 1))).canonicalLines := by
  have number : (Binary64.ofInt 1).isNaN = false := by decide +kernel
  have offer : (offerDocument (.int 1)).Determinate := offerDocument_determinate rfl (by simp)
  have rounded : (offerDocument (.float (.ofInt 1))).Determinate :=
    offerDocument_determinate rfl (by simp [number])
  have turned := offerDocument_turned offer.keyed
  have other : ¬ (offerDocument (.int 1)).Reordered (offerDocument (.float (.ofInt 1))) := by
    intro reordered
    have offers := (Value.reordered_object_iff.mp reordered).2 (.text "offer") _ _
      List.mem_cons_self List.mem_cons_self
    have prices := (Value.reordered_object_iff.mp offers).2 (.text "price") _ _
      List.mem_cons_self List.mem_cons_self
    cases prices with
    | list items =>
        cases items with
        | cons first _ => cases first
  exact ⟨offer, turned.determinate offer,
    (canonical_texts_decide _ _ offer (turned.determinate offer)).1.mpr turned,
    fun same => other ((canonical_texts_decide _ _ offer rounded).2.mp same)⟩

end Rulebook
