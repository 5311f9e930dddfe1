import Rulebook.Text.Character
import Rulebook.Text.NameTable

/-!
Characters by name.

A name is looked for in any ASCII case. Hangul syllables and unified ideographs are the
exception: their names are in capitals, and are worked out from their parts.
-/

namespace Rulebook.Text

def afterStart? (start : String) (text : List Char) : Option (List Char) :=
  if start.toList.isPrefixOf text then some (text.drop start.length) else none

def hexNumber (digits : List Char) : Nat :=
  digits.foldl (fun n c => 16 * n + (hexValue? c).getD 0) 0

/-! ### Names after codes -/

def isCapitalHex (c : Char) : Bool := isAsciiDigit c.toNat || ('A' ≤ c && c ≤ 'F')

def shortCode? (digits : List Char) : Option Nat :=
  if digits.all isCapitalHex && (digits.length = 4 || digits.length = 5) then
    some (hexNumber digits)
  else none

def CodedNames.find? (names : CodedNames) (name : List Char) : Option Nat := do
  let code ← shortCode? (← afterStart? names.start name)
  if names.first ≤ code && code ≤ names.last then some code else none

/-- The character of a name that ends in its code, which has no leading zero there. -/
def codedCharacter? (name : List Char) : Option Nat :=
  codedNames.findSome? fun names =>
    if afterStart? (names.start ++ "0") name = none then names.find? name else none

/-! ### Hangul syllables -/

/-- The longest of the parts that the text begins with, by its place, and the rest. -/
def longestPart? (parts : List String) (text : List Char) : Option (Nat × List Char) :=
  let fitting := parts.zipIdx.filterMap fun (part, place) =>
    (afterStart? part text).map (place, ·)
  (fitting.mergeSort fun a b => a.2.length ≤ b.2.length).head?

def syllable? (text : List Char) : Option Nat := do
  let (lead, text) ← longestPart? syllableLeads text
  let (vowel, text) ← longestPart? syllableVowels text
  let (tail, text) ← longestPart? syllableTails text
  if text.isEmpty then
    some (0xAC00 + (lead * syllableVowels.length + vowel) * syllableTails.length + tail)
  else none

/-! ### Runs of names -/

/-- The words of a name, each with the blank or hyphen behind it. -/
def nameWords : List Char → List (List Char)
  | [] => []
  | c :: rest =>
      match nameWords rest with
      | [] => [[c]]
      | word :: words => if c = ' ' || c = '-' then [c] :: word :: words else (c :: word) :: words

/-- The names of a run with their characters, from one on. `before` holds the words of the
name in front. -/
def namesFrom (code : Nat) (before : List (List Char)) :
    List (List Char) → List (List Char × Nat)
  | [] => []
  | entry :: rest =>
      let shared := (entry.head?.bind hexValue?).getD 0
      let words := before.take shared ++ nameWords (entry.drop 1)
      (words.flatten, code) :: namesFrom (code + 1) words rest

def runNames (run : List Char) : List (List Char × Nat) :=
  namesFrom (hexNumber (run.takeWhile (· ≠ ' '))) []
    (((run.dropWhile (· ≠ ' ')).drop 1).splitOn '|')

/-- The character of a name that stands in the table. -/
def listedCharacter? (name : List Char) : Option Nat :=
  ((nameRuns.toList.filter (· ≠ '\n')).splitOn ';').findSome? fun run =>
    (runNames run).lookup name

/-! ### Other names -/

/-- The character of a further name, which can be the number of a variation selector. -/
def aliasedCharacter? (name : List Char) : Option Nat :=
  let numbered := (List.range 256).find? fun n => ("VS" ++ toString (n + 1)).toList = name
  let selector := numbered.map fun n => if n < 16 then 0xFE00 + n else 0xE0100 + (n - 16)
  selector.or ((nameAliases.find? fun (_, text) => text.toList = name).map (·.1))

def capital (c : Char) : Char := if 'a' ≤ c ∧ c ≤ 'z' then Char.ofNat (c.toNat - 32) else c

def characterNamed? (name : List Char) : Option Nat :=
  match afterStart? syllableStart name with
  | some parts => syllable? parts
  | none =>
      if (afterStart? unifiedStart name).isSome then
        unifiedIdeographs.findSome? (·.find? name)
      else
        let capitals := name.map capital
        (aliasedCharacter? capitals).or
          ((codedCharacter? capitals).or (listedCharacter? capitals))

end Rulebook.Text
