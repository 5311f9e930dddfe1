import Rulebook.Number.Binary64

/-!
Values: what facts, literals, documents and results are made of.

An object keeps its entries in the order in which they were made. Its keys are texts
in every document; a payload may also use the other scalars.
-/

namespace Rulebook

inductive Key where
  | null
  | bool (b : Bool)
  | int (n : Int)
  | float (x : Binary64)
  | text (s : String)
deriving DecidableEq

inductive Value where
  | null
  | bool (b : Bool)
  | int (n : Int)
  | float (x : Binary64)
  | text (s : String)
  | list (items : List Value)
  | object (fields : List (Key × Value))

instance : Inhabited Value := ⟨.null⟩

namespace Value

/-! ### Identity of trees -/

mutual

/-- The same tree: constructors, texts, entries and their order all agree. -/
def identical : Value → Value → Bool
  | .null, .null => true
  | .bool a, .bool b => a == b
  | .int a, .int b => a == b
  | .float a, .float b => decide (a = b)
  | .text a, .text b => a == b
  | .list xs, .list ys => identicalItems xs ys
  | .object fs, .object gs => identicalFields fs gs
  | _, _ => false

def identicalItems : List Value → List Value → Bool
  | [], [] => true
  | x :: xs, y :: ys => identical x y && identicalItems xs ys
  | _, _ => false

def identicalFields : List (Key × Value) → List (Key × Value) → Bool
  | [], [] => true
  | (k, x) :: fs, (l, y) :: gs => decide (k = l) && identical x y && identicalFields fs gs
  | _, _ => false

end

mutual

/-- The structural comparison decides equality of values. -/
theorem eq_of_identical : ∀ a b : Value, identical a b = true → a = b
  | .list xs, b, h => by
      cases b with
      | list ys => exact congrArg Value.list (eq_of_identicalItems xs ys h)
      | _ => simp [identical] at h
  | .object fs, b, h => by
      cases b with
      | object gs => exact congrArg Value.object (eq_of_identicalFields fs gs h)
      | _ => simp [identical] at h
  | .null, b, h => by cases b <;> simp_all [identical]
  | .bool _, b, h => by cases b <;> simp_all [identical]
  | .int _, b, h => by cases b <;> simp_all [identical]
  | .float _, b, h => by cases b <;> simp_all [identical]
  | .text _, b, h => by cases b <;> simp_all [identical]
termination_by structural a => a

theorem eq_of_identicalItems : ∀ xs ys : List Value, identicalItems xs ys = true → xs = ys
  | [], ys, h => by cases ys <;> simp_all [identicalItems]
  | x :: xs, ys, h => by
      cases ys with
      | nil => simp [identicalItems] at h
      | cons y ys =>
          simp only [identicalItems, Bool.and_eq_true] at h
          rw [eq_of_identical x y h.1, eq_of_identicalItems xs ys h.2]
termination_by structural xs => xs

theorem eq_of_identicalFields :
    ∀ fs gs : List (Key × Value), identicalFields fs gs = true → fs = gs
  | [], gs, h => by cases gs <;> simp_all [identicalFields]
  | (k, x) :: fs, gs, h => by
      cases gs with
      | nil => simp [identicalFields] at h
      | cons entry gs =>
          simp only [identicalFields, Bool.and_eq_true, decide_eq_true_eq] at h
          rw [h.1.1, eq_of_identical x entry.2 h.1.2, eq_of_identicalFields fs gs h.2]
termination_by structural fs => fs

end

mutual

theorem identical_self : ∀ a : Value, identical a a = true
  | .null => rfl
  | .bool _ | .int _ | .float _ | .text _ => by simp [identical]
  | .list xs => identicalItems_self xs
  | .object fs => identicalFields_self fs

theorem identicalItems_self : ∀ xs : List Value, identicalItems xs xs = true
  | [] => rfl
  | x :: xs => by simp [identicalItems, identical_self x, identicalItems_self xs]

theorem identicalFields_self : ∀ fs : List (Key × Value), identicalFields fs fs = true
  | [] => rfl
  | (_, x) :: fs => by simp [identicalFields, identical_self x, identicalFields_self fs]

end

instance : DecidableEq Value := fun a b =>
  decidable_of_iff (identical a b = true)
    ⟨eq_of_identical a b, fun h => h ▸ identical_self a⟩

/-! ### Kinds -/

/-- An integer or a floating point number; a boolean is none. -/
def isNumber : Value → Bool
  | .int _ | .float _ => true
  | _ => false

def record (fields : List (String × Value)) : Value :=
  .object (fields.map fun (name, v) => (.text name, v))

/-- A text, or null where there is none. -/
def ofText? : Option String → Value
  | some s => .text s
  | none => .null

def ofNat (n : Nat) : Value := .int n

def texts (items : List String) : Value := .list (items.map .text)

end Value

/-! ### Entries -/

namespace Fields

variable {κ α : Type} [DecidableEq κ]

def get? (key : κ) : List (κ × α) → Option α
  | [] => none
  | (k, v) :: rest => if k = key then some v else get? key rest

/-- Replaces the value under a key in its place, or adds an entry at the end. -/
def set (key : κ) (value : α) : List (κ × α) → List (κ × α)
  | [] => [(key, value)]
  | (k, v) :: rest => if k = key then (k, value) :: rest else (k, v) :: set key value rest

def has (key : κ) (fields : List (κ × α)) : Bool := (get? key fields).isSome

/-- Entries in order, a later value under a key replacing the earlier one. -/
def ofList (entries : List (κ × α)) : List (κ × α) :=
  entries.foldl (fun fields (k, v) => set k v fields) []

theorem get?_set_self (key : κ) (value : α) (fields : List (κ × α)) :
    get? key (set key value fields) = some value := by
  induction fields with
  | nil => simp [set, get?]
  | cons entry rest ih =>
      obtain ⟨k, v⟩ := entry
      by_cases h : k = key <;> simp [set, get?, h, ih]

theorem get?_set_of_ne {key other : κ} (h : other ≠ key) (value : α)
    (fields : List (κ × α)) : get? other (set key value fields) = get? other fields := by
  induction fields with
  | nil => simp [set, get?, h.symm]
  | cons entry rest ih =>
      obtain ⟨k, v⟩ := entry
      by_cases hk : k = key
      · subst hk
        simp [set, get?, h.symm]
      · simp [set, get?, hk, ih]

end Fields

def Value.field? (name : String) : Value → Option Value
  | .object fields => Fields.get? (Key.text name) fields
  | _ => none

end Rulebook
