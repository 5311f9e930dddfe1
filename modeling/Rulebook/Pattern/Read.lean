import Rulebook.Pattern.Basic
import Rulebook.Text.Name
import Rulebook.Value.Display

/-!
Reading patterns.

A pattern is a sequence of alternatives of sequences of repeated items. A reverse solidus
and the character after it are one token throughout, also inside comments and names.
Reading ends with a tree or with one of the reasons for which there is none.
-/

namespace Rulebook.Pattern

-- `^` is the core library's power, also where another one is declared for the same types.
attribute [local instance (2000)] instPowNat

inductive Refusal where
  | malformed
  | tooManyDigits (digits : Nat)
  | repetitionTooLarge
  | alphabetsContradict
deriving DecidableEq

/-! ### Tokens -/

inductive Token where
  | char (c : Char)
  | escape (c : Char)
deriving DecidableEq

namespace Token

def text : Token → List Char
  | char c => [c]
  | escape c => ['\\', c]

/-- The tokens of a text, and whether a single reverse solidus is left at its end. -/
def ofText : List Char → List Token × Bool
  | [] => ([], false)
  | ['\\'] => ([], true)
  | '\\' :: c :: rest => let (ts, cut) := ofText rest; (escape c :: ts, cut)
  | c :: rest => let (ts, cut) := ofText rest; (char c :: ts, cut)

/-- The character of a token that is not escaped and satisfies a test. -/
def plain? (test : Char → Bool) : Token → Option Char
  | char c => if test c then some c else none
  | escape _ => none

/-- The leading tokens that are plain characters of a kind, at most `limit` of them, and
the other ones. -/
def takeChars (test : Char → Bool) : Nat → List Token → List Char × List Token
  | 0, ts => ([], ts)
  | _, [] => ([], [])
  | limit + 1, t :: ts =>
      match t.plain? test with
      | some c => let (cs, rest) := takeChars test limit ts; (c :: cs, rest)
      | none => ([], t :: ts)

/-- The text before the first plain `stop`, and the tokens after it. -/
def splitAt? (stop : Char) : List Token → Option (List Char × List Token)
  | [] => none
  | t :: ts =>
      if t = char stop then some ([], ts)
      else (splitAt? stop ts).map fun (name, rest) => (t.text ++ name, rest)

/-- The tokens after the end of the line. -/
def afterLine (ts : List Token) : List Token := (ts.dropWhile (· ≠ char '\n')).drop 1

end Token

/-! ### State -/

/-- What has been read of a pattern so far, besides its tree. `nextGroup` numbers the
next group. Inside an assertion that looks backwards, `fence` is the number of the first
group that it cannot refer to. `flawed` marks a fault that only counts once the whole
pattern has been read. -/
structure Progress where
  tokens : List Token
  cut : Bool
  nextGroup : Nat
  widths : List (Nat × Width)
  names : List (String × Nat)
  fence : Option Nat
  demanded : List Nat
  flawed : Bool

abbrev Read := StateT Progress (Except Refusal)

def malformed {α : Type} : Read α := throw .malformed

def peek? : Read (Option Token) := return (← get).tokens.head?

def skip : Read Unit := modify fun s => { s with tokens := s.tokens.drop 1 }

def accept (c : Char) : Read Bool := do
  if (← peek?) = some (.char c) then
    skip
    return true
  else return false

def expect (c : Char) : Read Unit := do
  if !(← accept c) then malformed

def nextChar : Read Char := do
  match ← peek? with
  | some (.char c) => skip; return c
  | _ => malformed

def takeChars (test : Char → Bool) (limit : Nat) : Read (List Char) := do
  let (cs, rest) := Token.takeChars test limit (← get).tokens
  modify fun s => { s with tokens := rest }
  return cs

def takeName (stop : Char) : Read (List Char) := do
  match Token.splitAt? stop (← get).tokens with
  | some (c :: name, rest) =>
      modify fun s => { s with tokens := rest }
      return c :: name
  | _ => malformed

/-! ### Groups -/

def closedWidth? (s : Progress) (index : Nat) : Option Width := s.widths.lookup index

/-- Inside an assertion that looks backwards only groups closed before it may be used. -/
def checkFence (index : Nat) : Read Unit := do
  let s ← get
  match s.fence with
  | some limit => if (closedWidth? s index).isNone || limit ≤ index then malformed
  | none => pure ()

def backReference (modes : Modes) (index : Nat) : Read Node := do
  if (closedWidth? (← get) index).isNone then malformed
  checkFence index
  return .again modes index

def openGroup (name : Option String) : Read Nat := do
  let s ← get
  let index := s.nextGroup
  match name with
  | some n =>
      if (s.names.lookup n).isSome then malformed
      set { s with nextGroup := index + 1, names := (n, index) :: s.names }
  | none => set { s with nextGroup := index + 1 }
  return index

def closeGroup (index : Nat) (body : Node) : Read Unit :=
  modify fun s => { s with widths := (index, body.width s.widths) :: s.widths }

/-! ### Escapes -/

def isOctal (c : Char) : Bool := '0' ≤ c && c ≤ '7'

def isDecimal (c : Char) : Bool := Text.isAsciiDigit c.toNat

def isHex (c : Char) : Bool := (Text.hexValue? c).isSome

def numberOf (base : Nat) (digits : List Char) : Nat :=
  digits.foldl (fun n c => base * n + (Text.hexValue? c).getD 0) 0

def controlEscape? : Char → Option Nat
  | 'a' => some 7
  | 'b' => some 8
  | 'f' => some 12
  | 'n' => some 10
  | 'r' => some 13
  | 't' => some 9
  | 'v' => some 11
  | '\\' => some 92
  | _ => none

def classEscape? : Char → Option SetItem
  | 'd' => some (.oneOf .digit false)
  | 'D' => some (.oneOf .digit true)
  | 's' => some (.oneOf .blank false)
  | 'S' => some (.oneOf .blank true)
  | 'w' => some (.oneOf .word false)
  | 'W' => some (.oneOf .word true)
  | _ => none

def anchorEscape? : Char → Option Anchor
  | 'A' => some .textStart
  | 'Z' => some .textEnd
  | 'b' => some .boundary
  | 'B' => some .noBoundary
  | _ => none

/-- Exactly so many hexadecimal digits, naming a character. -/
def hexEscape (width : Nat) : Read Nat := do
  let digits ← takeChars isHex width
  let code := numberOf 16 digits
  if digits.length ≠ width || 0x110000 ≤ code then malformed
  return code

/-- The character whose name stands in braces. -/
def namedEscape : Read Nat := do
  expect '\x7b'
  match Text.characterNamed? (← takeName '\x7d') with
  | some code => return code
  | none => malformed

/-- The character that an escape names where no digit is involved. -/
def letterEscape (c : Char) : Read Nat :=
  match c with
  | 'N' => namedEscape
  | 'x' => hexEscape 2
  | 'u' => hexEscape 4
  | 'U' => hexEscape 8
  | c => if Text.isAsciiLetter c.toNat then malformed else return c.toNat

def setEscape (c : Char) : Read SetItem := do
  match controlEscape? c, classEscape? c with
  | some code, _ => return .one code
  | none, some item => return item
  | none, none =>
      if isOctal c then
        let code := numberOf 8 (c :: (← takeChars isOctal 2))
        if 0o377 < code then malformed
        return .one code
      else if isDecimal c then malformed
      else return .one (← letterEscape c)

def literal (modes : Modes) (code : Nat) : Node := .char modes (.among false [.one code])

/-- A digit after a reverse solidus begins a character in octal, with a zero or three
octal digits, or the number of a group. -/
def digitEscape (modes : Modes) (c : Char) : Read Node := do
  if c = '0' then
    return literal modes (numberOf 8 (← takeChars isOctal 2))
  match ← takeChars isDecimal 1 with
  | [d] =>
      if isOctal c && isOctal d then
        match ← takeChars isOctal 1 with
        | [e] =>
            let code := numberOf 8 [c, d, e]
            if 0o377 < code then malformed
            return literal modes code
        | _ => backReference modes (numberOf 10 [c, d])
      else backReference modes (numberOf 10 [c, d])
  | _ => backReference modes (numberOf 10 [c])

def escapeNode (modes : Modes) (c : Char) : Read Node := do
  match anchorEscape? c, classEscape? c, controlEscape? c with
  | some place, _, _ => return .anchor modes place
  | none, some item, _ => return .char modes (.among false [item])
  | none, none, some code => return literal modes code
  | none, none, none =>
      if isDecimal c then digitEscape modes c
      else return literal modes (← letterEscape c)

/-! ### Sets of characters -/

def setMember : Token → Read SetItem
  | .char c => return .one c.toNat
  | .escape c => setEscape c

/-- The members of a set up to its closing bracket, which is a member where it comes
first. Members read so far are in `read`, the latest first. -/
def setItems : Nat → List SetItem → Read (List SetItem)
  | 0, _ => malformed
  | fuel + 1, read => do
      match ← peek? with
      | none => malformed
      | some t =>
          skip
          if t = .char ']' && !read.isEmpty then return read.reverse
          let first ← setMember t
          if !(← accept '-') then setItems fuel (first :: read)
          else
            match ← peek? with
            | none => malformed
            | some t =>
                skip
                if t = .char ']' then return (.one 45 :: first :: read).reverse
                match first, ← setMember t with
                | .one a, .one b =>
                    if b < a then malformed
                    setItems fuel (.range a b :: read)
                | _, _ => malformed

def setNode (modes : Modes) : Read Node := do
  let negated ← accept '^'
  let items ← setItems ((← get).tokens.length + 1) []
  return .char modes (.among negated items)

/-! ### Repetitions -/

/-- The first number of repetitions that is too large. -/
def repetitionLimit : Nat := 2 ^ (32 : Nat) - 1

/-- A number of repetitions. The fault of a reverse solidus at the very end of the
pattern is noticed before that of a number right in front of it. -/
def repetitionNumber (digits : List Char) : Read (Option Nat) := do
  if digits.isEmpty then return none
  let s ← get
  let refuse (refusal : Refusal) : Read (Option Nat) :=
    throw (if s.cut && s.tokens.isEmpty then .malformed else refusal)
  let n := numberOf 10 digits
  if digitLimit < digits.length then refuse (.tooManyDigits digits.length)
  else if repetitionLimit ≤ n then refuse .repetitionTooLarge
  else return some n

/-- Bounds in braces; what is not of their form is left where it is. -/
def braces : Read (Option (Nat × Option Nat)) := do
  let start := (← get).tokens
  let restore : Read (Option (Nat × Option Nat)) := do
    modify fun s => { s with tokens := start }
    return none
  if start.head? = some (.char '\x7d') then return none
  let low ← takeChars isDecimal start.length
  let high ← if ← accept ',' then takeChars isDecimal start.length else pure low
  if !(← accept '\x7d') then restore
  else
    let min := (← repetitionNumber low).getD 0
    let max ← repetitionNumber high
    if max.any (· < min) then malformed
    return some (min, max)

/-- The bounds that a mark of repetition stands for. -/
def bounds? (mark : Char) : Read (Option (Nat × Option Nat)) :=
  match mark with
  | '?' => return some (0, some 1)
  | '*' => return some (0, none)
  | '+' => return some (1, none)
  | _ => braces

/-- How a repetition is tried, by the mark behind it. -/
def greedMark : Read Greed := do
  if ← accept '?' then return .lazy
  if ← accept '+' then return .possessive
  return .greedy

/-- Repeats the latest item, which can be neither an anchor nor a repetition. -/
def repeatLatest (min : Nat) (max : Option Nat) (read : List Node) : Read (List Node) := do
  match read with
  | [] | .anchor .. :: _ | .loop .. :: _ => malformed
  | item :: others => return .loop (← greedMark) min max item :: others

/-! ### Switches -/

structure Switches where
  ignoreCase : Bool
  multiline : Bool
  dotMatchesAll : Bool
  verbose : Bool
  ascii : Bool
  unicode : Bool
  template : Bool
deriving DecidableEq

namespace Switches

def none : Switches := ⟨false, false, false, false, false, false, false⟩

def isLetter (c : Char) : Bool := c ∈ ['i', 'L', 'm', 's', 'x', 'a', 't', 'u']

def add (s : Switches) : Char → Option Switches
  | 'i' => some { s with ignoreCase := true }
  | 'm' => some { s with multiline := true }
  | 's' => some { s with dotMatchesAll := true }
  | 'x' => some { s with verbose := true }
  | 't' => some { s with template := true }
  | 'a' => if s.unicode then Option.none else some { s with ascii := true }
  | 'u' => if s.ascii then Option.none else some { s with unicode := true }
  | _ => Option.none

def union (s t : Switches) : Switches :=
  ⟨s.ignoreCase || t.ignoreCase, s.multiline || t.multiline,
   s.dotMatchesAll || t.dotMatchesAll, s.verbose || t.verbose, s.ascii || t.ascii,
   s.unicode || t.unicode, s.template || t.template⟩

def both (s t : Switches) : Switches :=
  ⟨s.ignoreCase && t.ignoreCase, s.multiline && t.multiline,
   s.dotMatchesAll && t.dotMatchesAll, s.verbose && t.verbose, s.ascii && t.ascii,
   s.unicode && t.unicode, s.template && t.template⟩

def ofLetters : List Char → Option Switches
  | [] => some none
  | letters => letters.foldlM add none

def apply (on off : Switches) (modes : Modes) : Modes where
  ignoreCase := (modes.ignoreCase || on.ignoreCase) && !off.ignoreCase
  multiline := (modes.multiline || on.multiline) && !off.multiline
  dotMatchesAll := (modes.dotMatchesAll || on.dotMatchesAll) && !off.dotMatchesAll
  verbose := (modes.verbose || on.verbose) && !off.verbose
  asciiOnly := (modes.asciiOnly || on.ascii) && !on.unicode

end Switches

/-- Switches for the whole pattern, or those turned on and off for one group. -/
inductive SwitchGroup where
  | whole (on : Switches)
  | scoped (on off : Switches)

def switchLetters : Read (Option Switches × Char) := do
  let letters ← takeChars Switches.isLetter (← get).tokens.length
  let mark ← nextChar
  return (if letters.isEmpty then Switches.none else Switches.ofLetters letters, mark)

/-- The letters of switches after the opening of a group, a leading minus included. -/
def switchGroup : Read SwitchGroup := do
  let (on?, mark) ← switchLetters
  match on?, mark with
  | some on, ')' => return .whole on
  | some on, ':' => if on.template then malformed else return .scoped on .none
  | some on, '-' =>
      if on.template then malformed
      match ← switchLetters with
      | (some off, ':') =>
          let forbidden := off.ascii || off.unicode || off.template
          let empty := off == .none
          if forbidden || empty || on.both off != .none then malformed
          return .scoped on off
      | _ => malformed
  | _, _ => malformed

/-! ### Sequences and groups -/

def sequence : List Node → Node
  | [] => .empty
  | [node] => node
  | node :: rest => .seq node (sequence rest)

def conditionGroup (name : List Char) : Read Nat := do
  if Text.isIdentifier name then
    match (← get).names.lookup (String.ofList name) with
    | some index => return index
    | none => malformed
  else
    let body := Text.trim Text.isBlank name
    let unsigned := if body.head? = some '+' then body.drop 1 else body
    let groups := unsigned.splitOn '_'
    let digits := groups.flatten.map fun c => Text.digitValue? c.toNat
    if groups.any List.isEmpty || digits.any Option.isNone then malformed
    let index := digits.foldl (fun n d => 10 * n + d.getD 0) 0
    if index = 0 || 2 ^ (30 : Nat) - 1 ≤ index then malformed
    modify fun s => { s with demanded := index :: s.demanded }
    return index

mutual

def alternatives : Nat → Modes → Read Node
  | 0, _ => malformed
  | fuel + 1, modes => do
      let first ← items fuel modes []
      if ← accept '|' then return .alt first (← alternatives fuel modes)
      else return first

/-- Items up to the end of the alternative, after those in `read`, the latest first. -/
def items : Nat → Modes → List Node → Read Node
  | 0, _, _ => malformed
  | fuel + 1, modes, read => do
      match ← peek? with
      | none | some (.char '|') | some (.char ')') => return sequence read.reverse
      | some (.escape c) =>
          skip
          items fuel modes ((← escapeNode modes c) :: read)
      | some (.char c) =>
          skip
          if modes.verbose && Text.isAsciiBlank c.toNat then items fuel modes read
          else if modes.verbose && c = '#' then
            modify fun s => { s with tokens := Token.afterLine s.tokens }
            items fuel modes read
          else
            match c with
            | '[' => items fuel modes ((← setNode modes) :: read)
            | '.' => items fuel modes (.char modes .any :: read)
            | '^' => items fuel modes (.anchor modes .lineStart :: read)
            | '$' => items fuel modes (.anchor modes .lineEnd :: read)
            | '(' =>
                match ← parenthesis fuel modes with
                | some node => items fuel modes (node :: read)
                | none => items fuel modes read
            | c =>
                if c ∈ ['*', '+', '?', '\x7b'] then
                  match ← bounds? c with
                  | some (min, max) => items fuel modes (← repeatLatest min max read)
                  | none => items fuel modes (literal modes c.toNat :: read)
                else items fuel modes (literal modes c.toNat :: read)

/-- What follows an opening parenthesis, up to the closing one. A comment is no item. -/
def parenthesis : Nat → Modes → Read (Option Node)
  | 0, _ => malformed
  | fuel + 1, modes => do
      if !(← accept '?') then return some (← captured fuel modes none)
      match ← peek? with
      | none | some (.escape _) => malformed
      | some (.char c) =>
          match c with
          | 'P' => skip; return some (← named fuel modes)
          | ':' => skip; return some (← enclosed fuel modes (Node.group none))
          | '>' => skip; return some (← enclosed fuel modes Node.atomic)
          | '#' => skip; comment
          | '=' => skip; return some (← enclosed fuel modes (Node.ahead true))
          | '!' => skip; return some (← enclosed fuel modes (Node.ahead false))
          | '<' => skip; return some (← lookBehind fuel modes)
          | '(' => skip; return some (← conditional fuel modes)
          | _ =>
              match ← switchGroup with
              | .whole _ => malformed
              | .scoped on off =>
                  return some (← enclosed fuel (Switches.apply on off modes) (Node.group none))

def enclosed : Nat → Modes → (Node → Node) → Read Node
  | 0, _, _ => malformed
  | fuel + 1, modes, wrap => do
      let body ← alternatives fuel modes
      expect ')'
      return wrap body

def captured : Nat → Modes → Option String → Read Node
  | 0, _, _ => malformed
  | fuel + 1, modes, name => do
      let index ← openGroup name
      let body ← alternatives fuel modes
      expect ')'
      closeGroup index body
      return .group (some index) body

def named : Nat → Modes → Read Node
  | 0, _ => malformed
  | fuel + 1, modes => do
      match ← nextChar with
      | '<' =>
          let name ← takeName '>'
          if !Text.isIdentifier name then malformed
          captured fuel modes (some (String.ofList name))
      | '=' =>
          let name ← takeName ')'
          match (← get).names.lookup (String.ofList name) with
          | some index => backReference modes index
          | none => malformed
      | _ => malformed

/-- A text of one fixed width that ends here, or that does not. -/
def lookBehind : Nat → Modes → Read Node
  | 0, _ => malformed
  | fuel + 1, modes => do
      let wanted ← nextChar
      if wanted ≠ '=' && wanted ≠ '!' then malformed
      let outer := (← get).fence
      modify fun s => { s with fence := s.fence.or (some s.nextGroup) }
      let body ← alternatives fuel modes
      modify fun s => { s with fence := outer }
      expect ')'
      let width := body.width (← get).widths
      let fixed := width.least = width.most && width.least < 2 ^ (32 : Nat)
      modify fun s => { s with flawed := s.flawed || !fixed }
      return .behind (wanted = '=') width.least body

def conditional : Nat → Modes → Read Node
  | 0, _ => malformed
  | fuel + 1, modes => do
      let index ← conditionGroup (← takeName ')')
      checkFence index
      let yes ← items fuel modes []
      let no ← if ← accept '|' then items fuel modes [] else pure .empty
      expect ')'
      return .branch index yes no

def comment : Read (Option Node) := do
  match Token.splitAt? ')' (← get).tokens with
  | some (_, rest) =>
      modify fun s => { s with tokens := rest }
      return none
  | none => malformed

end

/-! ### Whole patterns -/

/-- The switches for the whole pattern, which only comments, and blanks where they do
not count, may precede. -/
def header : Nat → Modes → Switches → Read (Modes × Switches)
  | 0, modes, on => return (modes, on)
  | fuel + 1, modes, on => do
      let start := (← get).tokens
      match start with
      | .char '(' :: .char '?' :: .char '#' :: rest =>
          modify fun s => { s with tokens := rest }
          let _ ← comment
          header fuel modes on
      | .char '(' :: .char '?' :: .char c :: rest =>
          if !(Switches.isLetter c || c = '-') then return (modes, on)
          modify fun s => { s with tokens := .char c :: rest }
          match ← switchGroup with
          | .whole more => header fuel (Switches.apply more .none modes) (on.union more)
          | .scoped .. =>
              modify fun s => { s with tokens := start }
              return (modes, on)
      | .char c :: rest =>
          if modes.verbose && Text.isAsciiBlank c.toNat then
            modify fun s => { s with tokens := rest }
            header fuel modes on
          else if modes.verbose && c = '#' then
            modify fun s => { s with tokens := Token.afterLine s.tokens }
            header fuel modes on
          else return (modes, on)
      | _ => return (modes, on)

def whole (ignoreCase : Bool) : Read Node := do
  let size := (← get).tokens.length
  let (modes, on) ← header (size + 1) (Modes.initial ignoreCase) Switches.none
  let node ← alternatives (4 * size + 8) { modes with asciiOnly := on.ascii }
  let s ← get
  if s.cut && s.tokens.isEmpty then malformed
  if on.ascii && on.unicode then throw .alphabetsContradict
  if !s.tokens.isEmpty then malformed
  if s.flawed || s.demanded.any (s.nextGroup ≤ ·) then malformed
  if on.template && node.repeats then malformed
  return node

def read (ignoreCase : Bool) (pattern : String) : Except Refusal Node :=
  let (tokens, cut) := Token.ofText pattern.toList
  (whole ignoreCase).run' ⟨tokens, cut, 1, [], [], none, [], false⟩

end Rulebook.Pattern
