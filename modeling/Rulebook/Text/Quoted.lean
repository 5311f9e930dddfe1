import Rulebook.Text.Character

/-!
Quoted text inside messages.

A text stands in single quotes unless it holds one and no double quote. The quote in
use, the reverse solidus and every character that cannot be printed are escaped.
-/

namespace Rulebook.Text

def hexDigits : Nat → Nat → List Char
  | 0, _ => []
  | width + 1, n => hexDigits width (n / 16) ++ [Nat.digitChar (n % 16)]

def quotedChar (quote c : Char) : List Char :=
  let n := c.toNat
  if c = quote ∨ c = '\\' then ['\\', c]
  else if c = '\n' then ['\\', 'n']
  else if c = '\r' then ['\\', 'r']
  else if c = '\t' then ['\\', 't']
  else if isPrintable n then [c]
  else if n < 0x100 then '\\' :: 'x' :: hexDigits 2 n
  else if n < 0x10000 then '\\' :: 'u' :: hexDigits 4 n
  else '\\' :: 'U' :: hexDigits 8 n

def quoteFor (text : List Char) : Char :=
  if '\'' ∈ text ∧ '"' ∉ text then '"' else '\''

def quoted (s : String) : String :=
  let text := s.toList
  let quote := quoteFor text
  String.ofList (quote :: text.flatMap (quotedChar quote) ++ [quote])

end Rulebook.Text
