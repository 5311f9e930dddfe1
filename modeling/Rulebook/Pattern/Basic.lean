import Rulebook.Text.Case

/-!
Text patterns: regular expressions with groups, back references and assertions.

`Node` is the tree of a pattern. What a letter, a class or an anchor means can depend on
the modes in force where it is written, so the nodes that need them carry them. The
width of a node, how few and how many characters it can take, decides whether it can
stand in an assertion that looks backwards.
-/

namespace Rulebook.Pattern

/-- Switches that a pattern can set for the whole of it or for a group. -/
structure Modes where
  ignoreCase : Bool
  multiline : Bool
  dotMatchesAll : Bool
  verbose : Bool
  asciiOnly : Bool
deriving DecidableEq

/-- No switch is set but possibly the first. -/
def Modes.initial (ignoreCase : Bool) : Modes := ⟨ignoreCase, false, false, false, false⟩

inductive CharClass where
  | digit | blank | word
deriving DecidableEq

inductive SetItem where
  | one (c : Nat)
  | range (first last : Nat)
  | oneOf (members : CharClass) (negated : Bool)
deriving DecidableEq

inductive CharTest where
  | any
  | among (negated : Bool) (items : List SetItem)
deriving DecidableEq

inductive Anchor where
  | textStart | textEnd | lineStart | lineEnd | boundary | noBoundary
deriving DecidableEq

inductive Greed where
  | greedy | lazy | possessive
deriving DecidableEq

inductive Node where
  | empty
  | char (modes : Modes) (test : CharTest)
  | anchor (modes : Modes) (place : Anchor)
  | seq (first second : Node)
  | alt (first second : Node)
  | loop (greed : Greed) (min : Nat) (max : Option Nat) (body : Node)
  | group (index : Option Nat) (body : Node)
  | atomic (body : Node)
  | ahead (wanted : Bool) (body : Node)
  | behind (wanted : Bool) (width : Nat) (body : Node)
  | again (modes : Modes) (index : Nat)
  | branch (index : Nat) (yes no : Node)
deriving DecidableEq

/-! ### Width -/

-- `^` is the core library's power, also where another one is declared for the same types.
attribute [local instance (2000)] instPowNat

/-- Widths are not told apart beyond this one. -/
def widthLimit : Nat := 2 ^ (64 : Nat)

structure Width where
  least : Nat
  most : Nat
deriving DecidableEq

namespace Width

def clamp (w : Width) : Width := ⟨min w.least widthLimit, min w.most widthLimit⟩

def add (a b : Width) : Width := clamp ⟨a.least + b.least, a.most + b.most⟩

def union (a b : Width) : Width := ⟨min a.least b.least, max a.most b.most⟩

def times (w : Width) (least : Nat) (most : Option Nat) : Width :=
  clamp
    ⟨w.least * least,
      match most with
      | some n => w.most * n
      | none => if w.most = 0 then 0 else widthLimit⟩

end Width

/-- How few and how many characters a node takes, given the widths of the groups. -/
def Node.width (groups : List (Nat × Width)) : Node → Width
  | empty | anchor .. | ahead .. | behind .. => ⟨0, 0⟩
  | char .. => ⟨1, 1⟩
  | seq a b => (a.width groups).add (b.width groups)
  | alt a b => (a.width groups).union (b.width groups)
  | loop _ least most body => (body.width groups).times least most
  | group _ body => body.width groups
  | atomic body => body.width groups
  | again _ index => (groups.lookup index).getD ⟨0, 0⟩
  | branch _ yes no => (yes.width groups).union (no.width groups)

/-- Some part of the node is repeated. -/
def Node.repeats : Node → Bool
  | empty | char .. | anchor .. | again .. => false
  | loop .. => true
  | seq a b | alt a b | branch _ a b => a.repeats || b.repeats
  | group _ body | atomic body | ahead _ body | behind _ _ body => body.repeats

/-! ### Characters -/

namespace CharClass

def holds (asciiOnly : Bool) (c : Nat) : CharClass → Bool
  | digit => if asciiOnly then Text.isAsciiDigit c else Text.isDigit c
  | blank => if asciiOnly then Text.isAsciiBlank c else Text.isBlank c
  | word => if asciiOnly then Text.isAsciiWord c else Text.isWord c

end CharClass

/-- The characters that count as `c` when case is ignored. -/
def caseVariants (asciiOnly : Bool) (c : Nat) : List Nat :=
  if asciiOnly then
    let low := Text.lowerAscii c
    if 97 ≤ low ∧ low ≤ 122 then [low, low - 32] else [c]
  else
    let low := Text.lower c
    (low :: Text.equivalents low).flatMap Text.lowerOrigins

namespace SetItem

/-- A character belongs to the member, as it is or in another case. -/
def holds (modes : Modes) (c : Nat) : SetItem → Bool
  | one x =>
      if modes.ignoreCase then
        if modes.asciiOnly then Text.lowerAscii x == Text.lowerAscii c else Text.alike x c
      else x == c
  | range first last =>
      let inRange := fun x => decide (first ≤ x ∧ x ≤ last)
      if modes.ignoreCase then (caseVariants modes.asciiOnly c).any inRange else inRange c
  | oneOf members negated => members.holds modes.asciiOnly c != negated

end SetItem

namespace CharTest

def holds (modes : Modes) (c : Nat) : CharTest → Bool
  | any => modes.dotMatchesAll || c != 10
  | among negated items => items.any (·.holds modes c) != negated

end CharTest

end Rulebook.Pattern
