import Rulebook.Pattern.Basic

/-!
Matching by ordered search.

A node is run on a place of the text with what has to match after it; the first way
through that the rest accepts is taken. Repetitions are bounded by the text: once the
least number is reached, a further one is begun only at a new place.
-/

namespace Rulebook.Pattern

/-- A place in the text and what the groups have taken, the latest first. -/
structure Place where
  position : Nat
  groups : List (Nat × Nat × Nat)
deriving DecidableEq

abbrev Rest := Place → Option Place

/-! ### Places -/

namespace Anchor

def isWordAt (modes : Modes) (c : Option Nat) : Bool :=
  c.any fun c => CharClass.word.holds modes.asciiOnly c

/-- The place between `before` and `after` is the start or the end of a word; a text
without characters has no such place, nor its opposite. -/
def changesWord (modes : Modes) (before after : Option Nat) : Option Bool :=
  if before.isNone && after.isNone then none
  else some (isWordAt modes before != isWordAt modes after)

def holds (modes : Modes) (text : Array Nat) (position : Nat) (place : Anchor) : Bool :=
  let before := if position = 0 then none else text[position - 1]?
  let after := text[position]?
  match place with
  | textStart => position = 0
  | textEnd => position = text.size
  | lineStart => position = 0 || (modes.multiline && before == some 10)
  | lineEnd =>
      position = text.size ||
        (after == some 10 && (modes.multiline || position + 1 == text.size))
  | boundary => changesWord modes before after == some true
  | noBoundary => changesWord modes before after == some false

end Anchor

/-- The text of a group stands at this position once more. -/
def repeatsAt (modes : Modes) (text : Array Nat) (start stop position : Nat) : Bool :=
  (List.range (stop - start)).all fun i =>
    match text[start + i]?, text[position + i]? with
    | some a, some b =>
        if modes.ignoreCase then
          if modes.asciiOnly then Text.lowerAscii a == Text.lowerAscii b
          else Text.lower a == Text.lower b
        else a == b
    | _, _ => false

/-! ### Repetition -/

/-- A repetition may still be added to so many. -/
def mayAdd (max : Option Nat) (count : Nat) : Bool :=
  match max with
  | some n => count < n
  | none => true

def greedyLoop (body : Rest → Rest) (min : Nat) (max : Option Nat) (rest : Rest) :
    Nat → Nat → Option Nat → Rest
  | 0, _, _, _ => none
  | fuel + 1, count, last, p =>
      if count < min then
        body (greedyLoop body min max rest fuel (count + 1) last) p
      else
        let more :=
          if mayAdd max count && last != some p.position then
            body (greedyLoop body min max rest fuel (count + 1) (some p.position)) p
          else none
        match more with
        | some q => some q
        | none => rest p

def lazyLoop (body : Rest → Rest) (min : Nat) (max : Option Nat) (rest : Rest) :
    Nat → Nat → Option Nat → Rest
  | 0, _, _, _ => none
  | fuel + 1, count, last, p =>
      if count < min then
        body (lazyLoop body min max rest fuel (count + 1) last) p
      else
        match rest p with
        | some q => some q
        | none =>
            if mayAdd max count && last != some p.position then
              body (lazyLoop body min max rest fuel (count + 1) (some p.position)) p
            else none

/-- As many repetitions as there are, without a way back. -/
def possessiveLoop (body : Rest) (min : Nat) (max : Option Nat) :
    Nat → Nat → Option Nat → Rest
  | 0, _, _, _ => none
  | fuel + 1, count, last, p =>
      if count < min then
        match body p with
        | some q => possessiveLoop body min max fuel (count + 1) last q
        | none => none
      else if mayAdd max count && last != some p.position then
        match body p with
        | some q => possessiveLoop body min max fuel (count + 1) (some p.position) q
        | none => some p
      else some p

/-! ### Nodes -/

def Node.run (text : Array Nat) : Node → Rest → Rest
  | empty, rest, p => rest p
  | char modes test, rest, p =>
      match text[p.position]? with
      | some c => if test.holds modes c then rest { p with position := p.position + 1 } else none
      | none => none
  | anchor modes place, rest, p => if place.holds modes text p.position then rest p else none
  | seq a b, rest, p => a.run text (b.run text rest) p
  | alt a b, rest, p =>
      match a.run text rest p with
      | some q => some q
      | none => b.run text rest p
  | loop greed min max body, rest, p =>
      let fuel := min + (text.size - p.position) + 2
      match greed with
      | .greedy => greedyLoop (body.run text) min max rest fuel 0 none p
      | .lazy => lazyLoop (body.run text) min max rest fuel 0 none p
      | .possessive =>
          (possessiveLoop (body.run text some) min max fuel 0 none p).bind rest
  | group none body, rest, p => body.run text rest p
  | group (some index) body, rest, p =>
      body.run text
        (fun q => rest { q with groups := (index, p.position, q.position) :: q.groups }) p
  | atomic body, rest, p => (body.run text some p).bind rest
  | ahead wanted body, rest, p =>
      match body.run text some p with
      | some q => if wanted then rest { p with groups := q.groups } else none
      | none => if wanted then none else rest p
  | behind wanted width body, rest, p =>
      if p.position < width then if wanted then none else rest p
      else
        match body.run text some { p with position := p.position - width } with
        | some q => if wanted then rest { p with groups := q.groups } else none
        | none => if wanted then none else rest p
  | again modes index, rest, p =>
      match p.groups.lookup index with
      | some (start, stop) =>
          if repeatsAt modes text start stop p.position then
            rest { p with position := p.position + (stop - start) }
          else none
      | none => none
  | branch index yes no, rest, p =>
      if (p.groups.lookup index).isSome then yes.run text rest p else no.run text rest p

def Node.occursIn (node : Node) (s : String) : Bool :=
  let text := (s.toList.map Char.toNat).toArray
  (List.range (text.size + 1)).any fun start => (node.run text some ⟨start, []⟩).isSome

end Rulebook.Pattern
