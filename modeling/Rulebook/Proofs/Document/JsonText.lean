import Rulebook.Document.Canonical
import Rulebook.Proofs.Number.Text
import Rulebook.Proofs.Value.Parts

/-!
JSON text determines what it is the text of.

A text is read from the left. The text of a value ends where a separator or a bracket follows, and
so does what is inside of it, so two values whose texts are followed by either are equal as soon as
their texts are (`value_splits`). Names and texts end at their quote, whatever follows.
-/

namespace Rulebook

namespace JsonText

/-! ### Escapes -/

def hexValue (c : Char) : Nat := "0123456789abcdef".toList.idxOf c

/-- What the letter of a short escape stands for. -/
def escapes : List (Char × Char) :=
  [('"', '"'), ('\\', '\\'), ('n', '\n'), ('r', '\r'), ('t', '\t'), ('b', '\x08'), ('f', '\x0c')]

/-- The character that a text starts with, escaped or not, and the rest of it. -/
def unescaped? : List Char → Option (Char × List Char)
  | '\\' :: 'u' :: a :: b :: c :: d :: rest =>
      some (Char.ofNat (((hexValue a * 16 + hexValue b) * 16 + hexValue c) * 16 + hexValue d), rest)
  | '\\' :: letter :: rest => (escapes.lookup letter).map (·, rest)
  | c :: rest => some (c, rest)
  | [] => none

theorem hexValue_digitChar : ∀ n < 16, hexValue (Nat.digitChar n) = n := by decide

theorem hexDigits_four (n : Nat) :
    Text.hexDigits 4 n =
      [Nat.digitChar (n / 16 / 16 / 16 % 16), Nat.digitChar (n / 16 / 16 % 16),
        Nat.digitChar (n / 16 % 16), Nat.digitChar (n % 16)] :=
  rfl

theorem unescaped?_unitEscape {c : Char} (small : c.toNat < 0x10000) (rest : List Char) :
    unescaped? (unitEscape c.toNat ++ rest) = some (c, rest) := by
  have digit : ∀ n, hexValue (Nat.digitChar (n % 16)) = n % 16 := fun n =>
    hexValue_digitChar _ (Nat.mod_lt n (by decide))
  have value : ((c.toNat / 16 / 16 / 16 % 16 * 16 + c.toNat / 16 / 16 % 16) * 16 +
      c.toNat / 16 % 16) * 16 + c.toNat % 16 = c.toNat := by omega
  rw [unitEscape, hexDigits_four]
  simp only [List.cons_append, List.nil_append, unescaped?, digit, value, Char.ofNat_toNat]

theorem unescaped?_short {pair : Char × Char} (known : pair ∈ escapes) (rest : List Char) :
    unescaped? ('\\' :: pair.1 :: rest) = some (pair.2, rest) := by
  simp only [escapes, List.mem_cons, List.not_mem_nil, or_false] at known
  rcases known with rfl | rfl | rfl | rfl | rfl | rfl | rfl <;> rfl

/-- A character has a short escape, is a control character, or stands for itself. -/
theorem char_cases (c : Char) :
    (∃ pair ∈ escapes, pair.2 = c ∧ char false c = ['\\', pair.1]) ∨
      (c.toNat < 32 ∧ char false c = unitEscape c.toNat) ∨
      (c ≠ '"' ∧ c ≠ '\\' ∧ char false c = [c]) := by
  have short : ∀ pair ∈ escapes, char false pair.2 = ['\\', pair.1] := by decide
  by_cases known : c ∈ escapes.map Prod.snd
  · obtain ⟨pair, member, rfl⟩ := List.mem_map.mp known
    exact .inl ⟨pair, member, rfl, short pair member⟩
  · simp only [escapes, List.map_cons, List.map_nil, List.mem_cons, List.not_mem_nil, or_false,
      not_or] at known
    obtain ⟨quote, solidus, feed, ret, tab, back, form⟩ := known
    right
    by_cases control : c.toNat < 32
    · exact .inl ⟨control, by simp [char, *]⟩
    · exact .inr ⟨quote, solidus, by simp [char, *]⟩

/-- Every character is read back from its escape. -/
theorem unescaped?_char (c : Char) (rest : List Char) :
    unescaped? (char false c ++ rest) = some (c, rest) := by
  rcases char_cases c with ⟨pair, known, rfl, escape⟩ | ⟨control, escape⟩ | ⟨-, solidus, escape⟩
  · rw [escape]
    exact unescaped?_short known rest
  · rw [escape, unescaped?_unitEscape (by omega)]
  · rw [escape, List.singleton_append]
    unfold unescaped?
    split <;> simp_all

/-- No escape starts with a quote. -/
theorem char_head (c : Char) : ∃ first others, char false c = first :: others ∧ first ≠ '"' := by
  rcases char_cases c with ⟨pair, -, -, escape⟩ | ⟨-, escape⟩ | ⟨quote, -, escape⟩
  · exact ⟨_, _, escape, by decide⟩
  · exact ⟨_, _, escape, by decide⟩
  · exact ⟨_, _, escape, quote⟩

/-! ### Texts in quotes -/

theorem string_toList (s : String) :
    (string false s).toList = '"' :: (s.toList.flatMap (char false) ++ ['"']) := by
  rw [string, String.toList_ofList]
  rfl

/-- Escaped text ends at the first bare quote, so what follows it is determined. -/
theorem escaped_splits {a b r s : List Char}
    (same : a.flatMap (char false) ++ '"' :: r = b.flatMap (char false) ++ '"' :: s) :
    a = b ∧ r = s := by
  induction a generalizing b with
  | nil =>
      cases b with
      | nil => exact ⟨rfl, (List.cons.inj same).2⟩
      | cons d rest =>
          obtain ⟨first, others, escape, quote⟩ := char_head d
          rw [List.flatMap_cons, escape] at same
          exact absurd (List.cons.inj same).1.symm quote
  | cons c rest ih =>
      cases b with
      | nil =>
          obtain ⟨first, others, escape, quote⟩ := char_head c
          rw [List.flatMap_cons, escape] at same
          exact absurd (List.cons.inj same).1 quote
      | cons d rest' =>
          rw [List.flatMap_cons, List.flatMap_cons, List.append_assoc, List.append_assoc] at same
          -- Both texts start with a whole escape, and an escape is read back as its character.
          have heads := congrArg unescaped? same
          rw [unescaped?_char, unescaped?_char] at heads
          obtain ⟨rfl, tails⟩ := Prod.mk.inj (Option.some.inj heads)
          obtain ⟨rfl, ends⟩ := ih tails
          exact ⟨rfl, ends⟩

/-- A text in quotes ends at its quote. -/
theorem string_splits {a b : String} {r s : List Char}
    (same : (string false a).toList ++ r = (string false b).toList ++ s) : a = b ∧ r = s := by
  simp only [string_toList, List.cons_append, List.append_assoc, List.nil_append] at same
  obtain ⟨equal, ends⟩ := escaped_splits (List.cons.inj same).2
  exact ⟨String.toList_inj.mp equal, ends⟩

/-! ### Items between brackets -/

/-- A character that no scalar other than a text has in its text. -/
def structural : List Char := [',', ']', '\x7d', '\n', '"', '[', '\x7b']

/-- Nothing follows, or what ends a value does. -/
def Ends (rest : List Char) : Prop := ∀ c, rest.head? = some c → c ∈ [',', ']', '\x7d', '\n']

theorem ends_cons {c : Char} (closing : c ∈ [',', ']', '\x7d', '\n']) (rest : List Char) :
    Ends (c :: rest) := by
  rintro _ ⟨⟩
  exact closing

section Items

variable {α : Type} {write : α → List Char} {xs ys : List α} {r s : List Char}

/-- What is written of two things is told apart when what ends it follows. -/
def PrefixFree (write : α → List Char) (a b : α) : Prop :=
  ∀ r s, Ends r → Ends s → write a ++ r = write b ++ s → a = b ∧ r = s

def chain (write : α → List Char) (lead tail : List Char) : List α → List Char
  | [] => tail
  | a :: rest => ',' :: (lead ++ (write a ++ chain write lead tail rest))

/-- A chain of items ends where its closing does. -/
theorem ends_chain {lead tail : List Char} (closes : Ends tail) (r : List Char)
    (filled : tail ≠ []) :
    Ends (chain write lead tail xs ++ r) := by
  cases xs with
  | nil =>
      cases tail with
      | nil => exact absurd rfl filled
      | cons c rest => exact ends_cons (closes c rfl) _
  | cons a rest => exact ends_cons (by decide) _

/-- Chains of items that can be told apart are split in one way. -/
theorem chain_splits {lead : List Char} {c : Char} {tail : List Char} (closing : c ≠ ',')
    (closes : Ends (c :: tail)) (each : ∀ a ∈ xs, ∀ b ∈ ys, PrefixFree write a b)
    (same : chain write lead (c :: tail) xs ++ r = chain write lead (c :: tail) ys ++ s) :
    xs = ys ∧ r = s := by
  induction xs generalizing ys with
  | nil =>
      cases ys with
      | nil => exact ⟨rfl, List.append_cancel_left same⟩
      | cons b rest => exact absurd (List.cons.inj same).1 closing
  | cons a rest ih =>
      cases ys with
      | nil => exact absurd (List.cons.inj same).1.symm closing
      | cons b rest' =>
          simp only [chain, List.cons_append, List.append_assoc, List.cons.injEq, true_and] at same
          obtain ⟨rfl, tails⟩ := each a List.mem_cons_self b List.mem_cons_self _ _
            (ends_chain closes r (List.cons_ne_nil c tail))
            (ends_chain closes s (List.cons_ne_nil c tail)) (List.append_cancel_left same)
          obtain ⟨rfl, ends⟩ := ih (fun x inRest y inRest' =>
            each x (List.mem_cons_of_mem _ inRest) y (List.mem_cons_of_mem _ inRest')) tails
          exact ⟨rfl, ends⟩

end Items

/-! The line breaks of a style, if it has any. -/

def lead (style : JsonStyle) (depth : Nat) : List Char :=
  match style.indentation with
  | none => []
  | some width => '\n' :: List.replicate ((depth + 1) * width) ' '

def trail (style : JsonStyle) (depth : Nat) : List Char :=
  match style.indentation with
  | none => []
  | some width => '\n' :: List.replicate (depth * width) ' '

section Brackets

variable {style : JsonStyle} {depth : Nat} {first last : String}

theorem intercalate_append {separator : String} {start : List Char}
    (comma : separator.toList = ',' :: start) (t : String) (rest : List String)
    (tail : List Char) :
    (separator.intercalate (t :: rest)).toList ++ tail =
      t.toList ++ chain String.toList start tail rest := by
  induction rest generalizing t with
  | nil => rw [String.intercalate_singleton, chain]
  | cons u rest ih =>
      rw [String.intercalate_cons_cons, String.toList_append, String.toList_append,
        List.append_assoc, ih, comma, chain, List.append_assoc, List.cons_append]

theorem bracketed_empty :
    (bracketed style depth first last []).toList = first.toList ++ last.toList := by
  rw [bracketed, if_pos List.isEmpty_nil, String.toList_append]

/-- A filled bracket is its opening, the first item and a chain up to its closing. -/
theorem bracketed_filled (comma : style.itemSeparator = ",") (t : String) (rest : List String) :
    (bracketed style depth first last (t :: rest)).toList =
      first.toList ++ (lead style depth ++ (t.toList ++
        chain String.toList (lead style depth) (trail style depth ++ last.toList) rest)) := by
  rw [bracketed, if_neg (by simp), comma]
  unfold lead trail
  cases style.indentation with
  | none =>
      simp only [String.toList_append, List.append_assoc, List.nil_append]
      rw [intercalate_append rfl]
  | some width =>
      have separator : ∀ n, ("," ++ ("\n" ++ String.ofList (List.replicate n ' '))).toList =
          ',' :: '\n' :: List.replicate n ' ' := by
        intro n
        simp only [String.toList_append, String.toList_ofList]
        rfl
      simp only [String.toList_append, List.append_assoc, String.toList_ofList]
      rw [intercalate_append (separator _)]
      rfl

/-- An item is led in by nothing or by a line break. -/
theorem lead_head (style : JsonStyle) (depth : Nat) :
    lead style depth = [] ∨ ∃ blanks, lead style depth = '\n' :: blanks := by
  unfold lead
  cases style.indentation with
  | none => exact .inl rfl
  | some width => exact .inr ⟨_, rfl⟩

/-- The closing starts with a character no item goes on with. -/
theorem trail_head (style : JsonStyle) (depth : Nat) {close : Char}
    (closing : close ∈ [']', '\x7d']) :
    ∃ c rest, trail style depth ++ [close] = c :: rest ∧ c ≠ ',' ∧ Ends (c :: rest) := by
  have closes : ∀ c ∈ [']', '\x7d'], c ≠ ',' ∧ c ∈ [',', ']', '\x7d', '\n'] := by simp
  unfold trail
  cases style.indentation with
  | none => exact ⟨close, [], rfl, (closes close closing).1, ends_cons (closes close closing).2 []⟩
  | some width => exact ⟨'\n', _, rfl, by decide, ends_cons (by decide) _⟩

variable {α : Type} {write : α → String} {xs ys : List α} {close : Char} {r s : List Char}

/-- What is written of an item does not start like the bracket that closes a list or an object. -/
def Opens (write : α → String) (a : α) : Prop :=
  ∃ c rest, (write a).toList = c :: rest ∧ c ∉ [']', '\x7d']

theorem chain_map (start tail : List Char) (xs : List α) :
    chain String.toList start tail (xs.map write) =
      chain (fun a => (write a).toList) start tail xs := by
  induction xs with
  | nil => rfl
  | cons a rest ih => rw [List.map_cons, chain, chain, ih]

/-- Brackets with no items are told apart from brackets with some. -/
theorem bracketed_ne (comma : style.itemSeparator = ",") (closes : last.toList = [close])
    (closing : close ∈ [']', '\x7d']) {a : α} {rest : List α} (opens : Opens write a)
    (same : (bracketed style depth first last []).toList ++ r =
      (bracketed style depth first last ((a :: rest).map write)).toList ++ s) : False := by
  obtain ⟨c, others, begins, other⟩ := opens
  rw [bracketed_empty, List.map_cons, bracketed_filled comma, closes, begins] at same
  simp only [List.append_assoc] at same
  have inside := List.append_cancel_left same
  rcases lead_head style depth with none | ⟨blanks, some⟩
  · rw [none] at inside
    exact other ((List.cons.inj inside).1 ▸ closing)
  · rw [some] at inside
    rw [(List.cons.inj inside).1] at closing
    exact absurd closing (by decide)

/-- Bracketed texts are equal only if their items are, one by one. -/
theorem bracketed_splits (comma : style.itemSeparator = ",") (closes : last.toList = [close])
    (closing : close ∈ [']', '\x7d']) (left : ∀ a ∈ xs, Opens write a)
    (right : ∀ b ∈ ys, Opens write b)
    (each : ∀ a ∈ xs, ∀ b ∈ ys, PrefixFree (fun a => (write a).toList) a b)
    (same : (bracketed style depth first last (xs.map write)).toList ++ r =
      (bracketed style depth first last (ys.map write)).toList ++ s) : xs = ys ∧ r = s := by
  cases xs with
  | nil =>
      cases ys with
      | nil => exact ⟨rfl, List.append_cancel_left same⟩
      | cons b rest =>
          exact (bracketed_ne comma closes closing (right b List.mem_cons_self) same).elim
  | cons a rest =>
      cases ys with
      | nil =>
          exact (bracketed_ne comma closes closing (left a List.mem_cons_self) same.symm).elim
      | cons b rest' =>
          -- The first items are told apart, and then the others are one by one.
          obtain ⟨c, tail, ending, other, ends⟩ := trail_head style depth closing
          rw [List.map_cons, List.map_cons, bracketed_filled comma, bracketed_filled comma,
            chain_map, chain_map, closes, ending] at same
          simp only [List.append_assoc] at same
          have inside := List.append_cancel_left (List.append_cancel_left same)
          obtain ⟨rfl, tails⟩ := each a List.mem_cons_self b List.mem_cons_self _ _
            (ends_chain ends r (List.cons_ne_nil c tail))
            (ends_chain ends s (List.cons_ne_nil c tail)) inside
          obtain ⟨rfl, final⟩ := chain_splits other ends (fun x inRest y inRest' =>
            each x (List.mem_cons_of_mem _ inRest) y (List.mem_cons_of_mem _ inRest')) tails
          exact ⟨rfl, final⟩

end Brackets

/-! ### Values -/

open Reading

/-- The character that opens the text of a value that is not written as a bare word or number. -/
def opening? : Value → Option Char
  | .text _ => some '"'
  | .list _ => some '['
  | .object _ => some '\x7b'
  | _ => none

/-- The value that a bare word or number writes. -/
def bare? (text : List Char) : Option Value :=
  if text = "null".toList then some .null
  else if text = "true".toList then some (.bool true)
  else if text = "false".toList then some (.bool false)
  else if text.all fun c => Text.isAsciiDigit c.toNat || c == '-' then
    some (.int (signedValue text))
  else (float? text).map .float

section Bare

variable (style : JsonStyle) (depth : Nat) {v : Value}

/-- A number is written with digits and a sign, so it is none of the words. -/
theorem int_ne_word (n : Int) {word : List Char} {c : Char} (member : c ∈ word)
    (letter : Text.isAsciiDigit c.toNat = false ∧ c ≠ '-') : (toString n).toList ≠ word := by
  rintro rfl
  rcases int_text_chars n c member with digit | sign
  · rw [letter.1] at digit
    cases digit
  · exact letter.2 sign

theorem float_ne_word {x : Binary64} (number : x.isNaN = false) {word : List Char}
    (unread : float? word = none) : (canonicalNumbers.text x).toList ≠ word := by
  rintro rfl
  rw [float?_canonical number] at unread
  cases unread

/-- Words and numbers are read back. -/
theorem bare?_value (bare : opening? v = none) (determinate : v.Determinate) :
    bare? (value style depth v).toList = some v := by
  cases v with
  | null =>
      rw [value]
      rfl
  | bool b =>
      rw [value]
      cases b <;> rfl
  | int n =>
      have signs : (toString n).toList.all fun c => Text.isAsciiDigit c.toNat || c == '-' := by
        rw [List.all_eq_true]
        intro c member
        simpa using int_text_chars n c member
      rw [value, bare?, if_neg (int_ne_word n (c := 'n') (by decide) (by decide)),
        if_neg (int_ne_word n (c := 't') (by decide) (by decide)),
        if_neg (int_ne_word n (c := 'f') (by decide) (by decide)), if_pos signs, signedValue_int]
  | float x =>
      have number := determinate.number
      -- A float shows a mark that no integer has.
      have mark : ¬ ((canonicalNumbers.text x).toList.all fun c =>
          Text.isAsciiDigit c.toNat || c == '-') = true := by
        obtain ⟨c, member, mark⟩ := canonical_text_broken number
        have signless : ∀ c ∈ ['.', 'e', 'I'],
            ¬ (Text.isAsciiDigit c.toNat || c == '-') = true := by simp [Text.isAsciiDigit]
        exact fun all => signless c mark (List.all_eq_true.mp all c member)
      rw [value, bare?, if_neg (float_ne_word number (by rfl)),
        if_neg (float_ne_word number (by rfl)), if_neg (float_ne_word number (by rfl)),
        if_neg mark, float?_canonical number]
      rfl
  | _ => cases bare

theorem digit_not_structural {c : Char} (digit : Text.isAsciiDigit c.toNat = true) :
    c ∉ structural := by
  have none : ∀ c ∈ structural, Text.isAsciiDigit c.toNat = false := by
    simp [structural, Text.isAsciiDigit]
  intro member
  rw [none c member] at digit
  cases digit

/-- A value that opens nothing is written without structural characters. -/
theorem bare_chars (bare : opening? v = none) (determinate : v.Determinate) :
    ∀ c ∈ (value style depth v).toList, c ∉ structural := by
  cases v with
  | null =>
      rw [value]
      simp [structural]
  | bool b =>
      rw [value]
      cases b <;> simp [structural]
  | int n =>
      intro c member
      rcases int_text_chars n c member with digit | rfl
      · exact digit_not_structural digit
      · decide
  | float x =>
      have marks : ∀ c ∈ ".e-+Infinity".toList, c ∉ structural := by simp [structural]
      intro c member
      rcases canonical_text_chars determinate.number c member with digit | mark
      · exact digit_not_structural digit
      · exact marks c mark
  | _ => cases bare

/-- It is written with at least one character. -/
theorem bare_filled (bare : opening? v = none) (determinate : v.Determinate) :
    (value style depth v).toList ≠ [] := by
  cases v with
  | null =>
      rw [value]
      decide
  | bool b =>
      rw [value]
      cases b <;> decide
  | int n =>
      rw [value, int_toList]
      split
      · exact List.cons_ne_nil _ _
      · exact Nat.toDigits_ne_nil
  | float x =>
      obtain ⟨c, member, -⟩ := canonical_text_broken determinate.number
      exact List.ne_nil_of_mem member
  | _ => cases bare

end Bare

/-- What follows a bare word or number is where it ends. -/
theorem append_splits {t u r s : List Char} (left : ∀ c ∈ t, c ∉ structural)
    (right : ∀ c ∈ u, c ∉ structural) (endsR : Ends r) (endsS : Ends s)
    (same : t ++ r = u ++ s) : t = u ∧ r = s := by
  have enders : ∀ c ∈ [',', ']', '\x7d', '\n'], c ∈ structural := by simp [structural]
  have closed : ∀ {x : List Char} {c : Char} {more rest : List Char}, Ends (c :: rest) →
      (∀ d ∈ x ++ c :: more, d ∉ structural) → False := by
    intro x c more rest ends plain
    exact plain c (by simp) (enders c (ends c rfl))
  rcases List.append_eq_append_iff.mp same with ⟨more, rfl, rfl⟩ | ⟨more, rfl, rfl⟩
  · cases more with
    | nil => exact ⟨(List.append_nil t).symm, rfl⟩
    | cons c more => exact (closed endsR right).elim
  · cases more with
    | nil => exact ⟨List.append_nil u, rfl⟩
    | cons c more => exact (closed endsS left).elim

section Values

variable {style : JsonStyle} (depth : Nat) {v w : Value} {r s : List Char}

theorem items_eq (items : List Value) :
    JsonText.items style depth items = items.map (value style depth) := by
  induction items with
  | nil => rfl
  | cons v rest ih => rw [JsonText.items, ih, List.map_cons]

def entry (style : JsonStyle) (depth : Nat) (entry : Key × Value) : String :=
  string style.asciiOnly entry.1.name ++ style.keySeparator ++ value style depth entry.2

theorem fields_eq (fields : List (Key × Value)) :
    JsonText.fields style depth fields = fields.map (entry style depth) := by
  induction fields with
  | nil => rfl
  | cons first rest ih =>
      obtain ⟨k, v⟩ := first
      rw [JsonText.fields, ih, List.map_cons]
      rfl

theorem bracketed_head (comma : style.itemSeparator = ",") (first last : String)
    (texts : List String) :
    ∃ rest, (bracketed style depth first last texts).toList = first.toList ++ rest := by
  cases texts with
  | nil => exact ⟨_, bracketed_empty⟩
  | cons t rest => exact ⟨_, bracketed_filled comma t rest⟩

/-- The text of a value starts with what opens it, or with a character of a word or number. -/
theorem value_head (comma : style.itemSeparator = ",") (determinate : v.Determinate) :
    ∃ c rest, (value style depth v).toList = c :: rest ∧
      (opening? v = some c ∨ opening? v = none ∧ c ∉ structural) := by
  cases kind : opening? v with
  | none =>
      have chars := bare_chars style depth kind determinate
      cases text : (value style depth v).toList with
      | nil => exact absurd text (bare_filled style depth kind determinate)
      | cons c rest => exact ⟨c, rest, rfl, .inr ⟨rfl, chars c (text ▸ List.mem_cons_self)⟩⟩
  | some c =>
      cases v with
      | text a =>
          cases kind
          refine ⟨'"', a.toList.flatMap (char style.asciiOnly) ++ ['"'], ?_, .inl rfl⟩
          rw [value, string, String.toList_ofList]
          rfl
      | list items =>
          cases kind
          obtain ⟨rest, text⟩ := bracketed_head depth comma "[" "]"
            (JsonText.items style (depth + 1) items)
          refine ⟨'[', rest, ?_, .inl rfl⟩
          rw [value, text]
          rfl
      | object fields =>
          cases kind
          obtain ⟨rest, text⟩ := bracketed_head depth comma "\x7b" "\x7d"
            (JsonText.fields style (depth + 1) fields)
          refine ⟨'\x7b', rest, ?_, .inl rfl⟩
          rw [value, text]
          rfl
      | _ => cases kind

theorem opening_structural {c : Char} (kind : opening? v = some c) :
    c ∈ structural ∧ c ∉ [']', '\x7d'] := by
  cases v <;> cases kind <;> decide

/-- The first character of a value's text tells what it opens. -/
theorem opens_value (comma : style.itemSeparator = ",") (determinate : v.Determinate) :
    Opens (value style depth) v := by
  obtain ⟨c, rest, text, kind⟩ := value_head depth comma determinate
  refine ⟨c, rest, text, ?_⟩
  rcases kind with opening | ⟨-, bare⟩
  · exact (opening_structural opening).2
  · have closing : ∀ c ∈ [']', '\x7d'], c ∈ structural := by simp [structural]
    exact fun member => bare (closing c member)

/-- Values whose texts start alike open the same. -/
theorem opening_eq (comma : style.itemSeparator = ",") (left : v.Determinate)
    (right : w.Determinate)
    (same : (value style depth v).toList ++ r = (value style depth w).toList ++ s) :
    opening? v = opening? w := by
  obtain ⟨c, rest, text, kind⟩ := value_head depth comma left
  obtain ⟨d, rest', text', kind'⟩ := value_head depth comma right
  rw [text, text'] at same
  obtain rfl := (List.cons.inj same).1
  rcases kind with opening | ⟨none, bare⟩
  · rcases kind' with opening' | ⟨-, bare⟩
    · rw [opening, opening']
    · exact absurd (opening_structural opening).1 bare
  · rcases kind' with opening' | ⟨none', -⟩
    · exact absurd (opening_structural opening').1 bare
    · rw [none, none']

/-- The names and the values of entries are told apart in turn. -/
theorem entry_splits (plain : style.asciiOnly = false) {first second : Key × Value}
    (names : (∃ name, first.1 = .text name) ∧ ∃ name, second.1 = .text name)
    (values : PrefixFree (fun v => (value style depth v).toList) first.2 second.2) :
    PrefixFree (fun e => (entry style depth e).toList) first second := by
  obtain ⟨k, v⟩ := first
  obtain ⟨l, w⟩ := second
  obtain ⟨⟨a, rfl⟩, b, rfl⟩ := names
  intro r s endsR endsS same
  simp only [entry, plain, String.toList_append, List.append_assoc] at same
  obtain ⟨name, rest⟩ := string_splits same
  obtain ⟨value, final⟩ := values r s endsR endsS (List.append_cancel_left rest)
  obtain rfl : a = b := name
  obtain rfl : v = w := value
  exact ⟨rfl, final⟩

theorem opens_entry (plain : style.asciiOnly = false) (e : Key × Value) :
    Opens (entry style depth) e := by
  have text : (entry style depth e).toList = '"' :: (e.1.name.toList.flatMap (char false) ++
      '"' :: (style.keySeparator.toList ++ (value style depth e.2).toList)) := by
    simp [entry, plain, string_toList]
  exact ⟨_, _, text, by decide⟩

/-- The texts of two values in one style are told apart by what they are followed with. -/
theorem value_splits (comma : style.itemSeparator = ",") (plain : style.asciiOnly = false)
    (left : v.Determinate) (right : w.Determinate) :
    PrefixFree (fun v => (value style depth v).toList) v w := by
  induction v using Value.part_induction generalizing w depth with
  | step v ih =>
      intro r s endsR endsS same
      have kinds := opening_eq depth comma left right same
      cases v with
      | text a =>
          cases w with
          | text b =>
              simp only [value, plain] at same
              obtain ⟨rfl, final⟩ := string_splits same
              exact ⟨rfl, final⟩
          | _ => cases kinds
      | list xs =>
          cases w with
          | list ys =>
              simp only [value, items_eq] at same
              have each : ∀ a ∈ xs, ∀ b ∈ ys,
                  PrefixFree (fun v => (value style (depth + 1) v).toList) a b :=
                fun a inXs b inYs => ih a (.item inXs) (depth + 1) (left.part (.item inXs))
                  (right.part (.item inYs))
              obtain ⟨rfl, final⟩ := bracketed_splits comma rfl (by decide)
                (fun a inXs => opens_value (depth + 1) comma (left.part (.item inXs)))
                (fun b inYs => opens_value (depth + 1) comma (right.part (.item inYs))) each same
              exact ⟨rfl, final⟩
          | _ => cases kinds
      | object fs =>
          cases w with
          | object gs =>
              simp only [value, fields_eq] at same
              have each : ∀ e ∈ fs, ∀ f ∈ gs,
                  PrefixFree (fun e => (entry style (depth + 1) e).toList) e f := by
                intro e inFs f inGs
                have names := And.intro (left.keyed.texts e inFs) (right.keyed.texts f inGs)
                exact entry_splits (depth + 1) plain names (ih e.2 (.entry inFs) (depth + 1)
                  (left.part (.entry inFs)) (right.part (.entry inGs)))
              obtain ⟨rfl, final⟩ := bracketed_splits comma rfl (by decide)
                (fun e _ => opens_entry (depth + 1) plain e)
                (fun e _ => opens_entry (depth + 1) plain e) each same
              exact ⟨rfl, final⟩
          | _ => cases kinds
      | _ =>
          -- A scalar ends where a structural character follows, so both have one text.
          have bare : opening? w = none := kinds.symm
          obtain ⟨text, final⟩ := append_splits (bare_chars style depth rfl left)
            (bare_chars style depth bare right) endsR endsS same
          have read := bare?_value style depth rfl left
          rw [text, bare?_value style depth bare right] at read
          exact ⟨(Option.some.inj read).symm, final⟩

/-- A tree is determined by its text. -/
theorem value_injective (comma : style.itemSeparator = ",") (plain : style.asciiOnly = false)
    (left : v.Determinate) (right : w.Determinate) (same : v.json style = w.json style) : v = w :=
  (value_splits 0 comma plain left right [] [] nofun nofun
    (congrArg (·.toList ++ []) same)).1

end Values

end JsonText

end Rulebook
