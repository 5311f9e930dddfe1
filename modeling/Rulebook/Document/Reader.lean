import Rulebook.Document.Decoded
import Rulebook.Number.Reading
import Rulebook.Program.Basic

/-!
Readers for the parts of a document.

Scalars are read leniently where no information is lost: an integral number may stand
for an integer, 0 and 1 and a few words for a boolean, and a text that writes a number
for that number. Texts, lists and objects are never made from anything else.
-/

namespace Rulebook

abbrev Reader (α : Type) := Value → Decoded α

namespace Reader

variable {α : Type}

/-! ### Scalars -/

def text : Reader String
  | .text s => .accepted s
  | _ => .fail .notText

def nonEmptyText : Reader String := fun v => (text v).check (· ≠ "") .textTooShort

/-- The integer that a number is, if it is one. -/
def integralFloat (x : Binary64) : Decoded Int :=
  match x.toInt? with
  | some n => .accepted n
  | none => .fail (if x.isFinite then .fractionalInt else .nonFiniteInt)

def int : Reader Int
  | .int n => .accepted n
  | .bool b => .accepted b.toInt
  | .float x => integralFloat x
  | .text s =>
      match readInt? s with
      | some n => .accepted n
      | none => .fail .unreadableInt
  | _ => .fail .notInt

def float : Reader Binary64
  | .float x => .accepted x
  | .int n => .accepted (.ofInt n)
  | .bool b => .accepted (.ofInt b.toInt)
  | .text s =>
      match readFloat? s with
      | some x => .accepted x
      | none => .fail .unreadableFloat
  | _ => .fail .notFloat

def boolWord? (s : String) : Option Bool :=
  if s ∈ ["1", "true", "t", "yes", "y", "on"] then some true
  else if s ∈ ["0", "false", "f", "no", "n", "off"] then some false
  else none

def boolInt? (n : Int) : Option Bool :=
  if n = 0 then some false else if n = 1 then some true else none

/-- A boolean, or what stands for one, the word being given in any case. -/
def bool : Reader Bool
  | .bool b => .accepted b
  | .int n =>
      match boolInt? n with
      | some b => .accepted b
      | none => .fail .unreadableBool
  | .float x =>
      match x.toInt? >>= boolInt? with
      | some b => .accepted b
      | none => .fail .notBool
  | .text s =>
      match boolWord? (String.ofList (s.toList.map Char.toLower)) with
      | some b => .accepted b
      | none => .fail .unreadableBool
  | _ => .fail .notBool

def member (read? : String → Option α) : Reader α
  | .text s =>
      match read? s with
      | some a => .accepted a
      | none => .fail .notMember
  | _ => .fail .notMember

/-- A literal keeps the type that it is written in. -/
def scalar : Reader Scalar
  | .bool b => .accepted (.bool b)
  | .int n => .accepted (.int n)
  | .float x => .accepted (.float x)
  | .text s => .accepted (.text s)
  | _ => .refused
      [⟨[.name "bool"], .notBool⟩, ⟨[.name "int"], .notInt⟩, ⟨[.name "float"], .notFloat⟩,
       ⟨[.name "str"], .notText⟩]

/-- An amount keeps the type that it is written in; a boolean or an integral text is an
integer, any other numeric text a floating point number. -/
def amount : Reader Amount
  | .float x => .accepted (.float x)
  | v =>
      match (int v).within (.name "int"), (float v).within (.name "float") with
      | .accepted n, _ => .accepted (.int n)
      | .refused _, .accepted x => .accepted (.float x)
      | .refused ps, .refused qs => .refused (ps ++ qs)

/-! ### Lists, options and mappings -/

def itemsFrom (read : Reader α) : Nat → List Value → Decoded (List α)
  | _, [] => .accepted []
  | i, v :: rest =>
      List.cons <$> (read v).within (.index i) <*> itemsFrom read (i + 1) rest

def list (read : Reader α) : Reader (List α)
  | .list items => itemsFrom read 0 items
  | _ => .fail .notList

def nonEmptyList (read : Reader α) : Reader (List α) := fun v =>
  (list read v).check (!·.isEmpty) .listTooShort

def optional (read : Reader α) : Reader (Option α)
  | .null => .accepted none
  | v => some <$> read v

-- `^` is the core library's power, also where another one is declared for the same types.
attribute [local instance (2000)] instPowNat

/-- How a key appears in the way to a problem. -/
def keyStep : Key → Step
  | .text s => .name s
  | .int n => if -(2 ^ (63 : Nat)) ≤ n ∧ n < 2 ^ (63 : Nat) then .index n else .name (toString n)
  | .bool b => .index b.toInt
  | k => .name k.display

def entries : List (Key × Value) → Decoded Record
  | [] => .accepted []
  | (k, v) :: rest =>
      let name : Decoded String :=
        match k with
        | .text s => .accepted s
        | k => .refused [⟨[keyStep k, .name "[key]"], .notText⟩]
      (fun s r => (s, v) :: r) <$> name <*> entries rest

/-- An object with text keys, whatever its values are. -/
def mapping : Reader Record
  | .object fields => entries fields
  | _ => .fail .notMapping

/-! ### Records -/

/-- The first of the names that a record has an entry for, and that entry. -/
def entry? (names : List String) (fields : List (Key × Value)) : Option (String × Value) :=
  names.findSome? fun name => (Fields.get? (Key.text name) fields).map (name, ·)

/-- An entry that must be there. Its absence is reported under the first name. -/
def required (names : List String) (read : Reader α) (fields : List (Key × Value)) :
    Decoded α :=
  match entry? names fields with
  | some (name, v) => (read v).within (.name name)
  | none => .refused [⟨[.name (names.headD "")], .missing⟩]

/-- An entry that may be left out. -/
def defaulted (names : List String) (default : α) (read : Reader α)
    (fields : List (Key × Value)) : Decoded α :=
  match entry? names fields with
  | some (name, v) => (read v).within (.name name)
  | none => .accepted default

/-- A part made from the entries of an object. -/
def record (read : List (Key × Value) → Decoded α) : Reader α
  | .object fields => read fields
  | _ => .fail .notRecord

/-- What the kind of a tagged record says. -/
inductive Tag where
  | absent
  | unusable
  | word (s : String)

def tag (fields : List (Key × Value)) : Tag :=
  match Fields.get? (Key.text "kind") fields with
  | none => .absent
  | some (.text s) => .word s
  | some _ => .unusable

end Reader

end Rulebook
