import Rulebook.Value.Display

/-!
Values as JSON text.

`JsonStyle` holds what a text is made of besides the value: separators, whether lines
are indented, and whether characters beyond ASCII are escaped. Three styles are in use.
-/

namespace Rulebook

/-- How a JSON text looks. With an indentation each item stands on a line of its own. -/
structure JsonStyle where
  itemSeparator : String
  keySeparator : String
  indentation : Option Nat
  asciiOnly : Bool
deriving DecidableEq

namespace JsonStyle

def compact : JsonStyle := ⟨",", ":", none, false⟩

/-- One item a line, two blanks a level. -/
def pretty : JsonStyle := ⟨",", ": ", some 2, false⟩

def line : JsonStyle := ⟨", ", ": ", none, true⟩

end JsonStyle

namespace JsonText

/-- The escape of a code unit of 16 bits. -/
def unitEscape (n : Nat) : List Char := '\\' :: 'u' :: Text.hexDigits 4 n

/-- A character as one unit, or as a pair of them beyond the basic plane. -/
def wideEscape (n : Nat) : List Char :=
  if n < 0x10000 then unitEscape n
  else
    let rest := n - 0x10000
    unitEscape (0xD800 + rest / 0x400) ++ unitEscape (0xDC00 + rest % 0x400)

def char (asciiOnly : Bool) (c : Char) : List Char :=
  if c = '"' then ['\\', '"']
  else if c = '\\' then ['\\', '\\']
  else if c = '\n' then ['\\', 'n']
  else if c = '\r' then ['\\', 'r']
  else if c = '\t' then ['\\', 't']
  else if c = '\x08' then ['\\', 'b']
  else if c = '\x0c' then ['\\', 'f']
  else if c.toNat < 32 then unitEscape c.toNat
  else if asciiOnly ∧ 127 ≤ c.toNat then wideEscape c.toNat
  else [c]

def string (asciiOnly : Bool) (s : String) : String :=
  String.ofList ('"' :: s.toList.flatMap (char asciiOnly) ++ ['"'])

def bracketed (style : JsonStyle) (depth : Nat) (first last : String)
    (items : List String) : String :=
  if items.isEmpty then first ++ last
  else
    match style.indentation with
    | none => first ++ style.itemSeparator.intercalate items ++ last
    | some width =>
        let line (n : Nat) := "\n" ++ String.ofList (List.replicate (n * width) ' ')
        let separator := style.itemSeparator ++ line (depth + 1)
        first ++ line (depth + 1) ++ separator.intercalate items ++ line depth ++ last

mutual

def value (style : JsonStyle) (depth : Nat) : Value → String
  | .null => "null"
  | .bool b => if b then "true" else "false"
  | .int n => toString n
  | .float x => canonicalNumbers.text x
  | .text s => string style.asciiOnly s
  | .list xs => bracketed style depth "[" "]" (items style (depth + 1) xs)
  | .object fs => bracketed style depth "\x7b" "\x7d" (fields style (depth + 1) fs)

def items (style : JsonStyle) (depth : Nat) : List Value → List String
  | [] => []
  | v :: rest => value style depth v :: items style depth rest

def fields (style : JsonStyle) (depth : Nat) : List (Key × Value) → List String
  | [] => []
  | (k, v) :: rest =>
      (string style.asciiOnly k.name ++ style.keySeparator ++ value style depth v)
        :: fields style depth rest

end

end JsonText

/-- The JSON text of a value in a style. -/
def Value.json (style : JsonStyle) (v : Value) : String := JsonText.value style 0 v

end Rulebook
