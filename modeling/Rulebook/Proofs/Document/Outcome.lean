import Rulebook.Document.Program
import Rulebook.Proofs.Document.Reading

/-!
What reading comes to: a result, or none.

Two documents that are both refused may be refused for different reasons. `Reader.SameOn` takes
the reasons away: a reader gives the same result on both of two values, or none on either. The
outcome of a reading follows from the outcomes of its parts (`toOption_map`, `toOption_seq` and so
on), and that of an entry depends only on the value that is found for its names.
-/

namespace Rulebook

namespace Decoded

variable {α β : Type}

@[simp] theorem toOption_accepted (a : α) : (accepted a).toOption = some a := rfl

@[simp] theorem toOption_refused (problems : List Problem) :
    (refused problems : Decoded α).toOption = none := rfl

@[simp] theorem toOption_fail (cause : Cause) : (fail cause : Decoded α).toOption = none := rfl

@[simp] theorem toOption_map (f : α → β) (x : Decoded α) :
    (f <$> x).toOption = x.toOption.map f := by
  cases x <;> rfl

@[simp] theorem toOption_seq (f : Decoded (α → β)) (x : Decoded α) :
    (f <*> x).toOption = f.toOption.bind x.toOption.map := by
  cases f <;> cases x <;> rfl

@[simp] theorem toOption_within (step : Step) (x : Decoded α) :
    (within step x).toOption = x.toOption := by
  cases x <;> rfl

@[simp] theorem toOption_check (demand : α → Bool) (cause : Cause) (x : Decoded α) :
    (check demand cause x).toOption = x.toOption.filter demand := by
  cases x with
  | refused ps => rfl
  | accepted a => by_cases met : demand a = true <;> simp [check, met, Option.filter]

section Same

variable {f : α → β} {x y : Decoded α}

theorem map_same (same : x.toOption = y.toOption) : (f <$> x).toOption = (f <$> y).toOption := by
  rw [toOption_map, toOption_map, same]

theorem seq_same {f g : Decoded (α → β)} (first : f.toOption = g.toOption)
    (second : x.toOption = y.toOption) : (f <*> x).toOption = (g <*> y).toOption := by
  rw [toOption_seq, toOption_seq, first, second]

theorem within_same {step : Step} (same : x.toOption = y.toOption) :
    (within step x).toOption = (within step y).toOption := by
  rw [toOption_within, toOption_within, same]

end Same

end Decoded

namespace Reader

variable {α : Type} {read : Reader α} {names : List String} {fs gs : List (Key × Value)}
  {v w : Value}

/-- A reader has the same result on both values, or none on either. -/
def SameOn (read : Reader α) (v w : Value) : Prop := (read v).toOption = (read w).toOption

/-! ### Entries -/

/-- The value under the first of the names that a record has an entry for. -/
def value? (names : List String) (fields : List (Key × Value)) : Option Value :=
  names.findSome? fun name => Fields.get? (Key.text name) fields

theorem value?_single (name : String) (fields : List (Key × Value)) :
    value? [name] fields = Fields.get? (Key.text name) fields := by
  cases found : Fields.get? (Key.text name) fields <;> simp [value?, found]

/-- Only the values at the names looked up matter. -/
theorem value?_congr (same : ∀ name ∈ names,
    Fields.get? (Key.text name) fs = Fields.get? (Key.text name) gs) :
    value? names fs = value? names gs := by
  unfold value?
  induction names with
  | nil => rfl
  | cons name rest ih =>
      obtain ⟨here, others⟩ := List.forall_mem_cons.mp same
      rw [List.findSome?_cons, List.findSome?_cons, here, ih others]

theorem map_snd_entry? (names : List String) (fields : List (Key × Value)) :
    Option.map Prod.snd ( entry? names fields) = value? names fields := by
  unfold entry? value?
  rw [List.map_findSome?]
  congr
  funext name
  rw [Function.comp_apply, Option.map_map]
  exact Option.map_id'

theorem toOption_required (names : List String) (fields : List (Key × Value)) :
    (required names read fields).toOption =
      (value? names fields).elim none fun v => (read v).toOption := by
  rw [required, ← map_snd_entry?]
  cases entry? names fields <;> simp

theorem toOption_defaulted (names : List String) (default : α) (fields : List (Key × Value)) :
    (defaulted names default read fields).toOption =
      (value? names fields).elim (some default) fun v => (read v).toOption := by
  rw [defaulted, ← map_snd_entry?]
  cases entry? names fields <;> simp

theorem elim_same {x y : Option Value} (found : Option.Rel read.SameOn x y) (left : Option α) :
    (x.elim left fun v => (read v).toOption) = y.elim left fun v => (read v).toOption := by
  cases found with
  | some same => exact same
  | none => rfl

/-- An entry is read the same from records that have the same for its names. -/
theorem required_same (found : Option.Rel read.SameOn (value? names fs) (value? names gs)) :
    (required names read fs).toOption = (required names read gs).toOption := by
  rw [toOption_required, toOption_required, elim_same found]

theorem defaulted_same (default : α)
    (found : Option.Rel read.SameOn (value? names fs) (value? names gs)) :
    (defaulted names default read fs).toOption = (defaulted names default read gs).toOption := by
  rw [toOption_defaulted, toOption_defaulted, elim_same found]

/-! ### Lists and words -/

/-- A list is read the same when one of its items is. -/
theorem list_same (same : read.SameOn v w) (before after : List Value) :
    (list read).SameOn (.list (before ++ v :: after)) (.list (before ++ w :: after)) := by
  suffices every : ∀ i, (itemsFrom read i (before ++ v :: after)).toOption =
      (itemsFrom read i (before ++ w :: after)).toOption from every 0
  unfold SameOn at same
  induction before with
  | nil =>
      intro i
      simp [itemsFrom, same]
  | cons first rest ih =>
      intro i
      simp [itemsFrom, ih (i + 1)]

theorem nonEmptyList_same (same : (list read).SameOn v w) : (nonEmptyList read).SameOn v w := by
  unfold SameOn at same ⊢
  rw [nonEmptyList, nonEmptyList, Decoded.toOption_check, Decoded.toOption_check, same]

theorem member_same {read? : String → Option α} {s t : String} (same : read? s = read? t) :
    (member read?).SameOn (.text s) (.text t) := by
  unfold SameOn member
  simp only [same]

theorem optional_same {s t : String} (same : read.SameOn (.text s) (.text t)) :
    (optional read).SameOn (.text s) (.text t) := by
  unfold SameOn at same ⊢
  simp only [optional, Decoded.toOption_map, same]

end Reader

end Rulebook
