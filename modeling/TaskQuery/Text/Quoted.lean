import TaskQuery.Text.Case
import TaskQuery.Text.UnprintableTable
/-!
# Quoted text

A text between quotes as messages show it: an apostrophe switches the quotes to
double ones unless the text also holds those, and every character without a printed
form is an escape.
-/

namespace TaskQuery.Text

def hexDigit (d : Nat) : Char :=
  if d % 16 < 10 then Char.ofNat (0x30 + d % 16) else Char.ofNat (0x57 + d % 16)

def hexDigits : Nat → Nat → List Char
  | 0, _ => []
  | width + 1, n => hexDigits width (n / 16) ++ [hexDigit n]

/-- The shortest of the escapes `\xNN`, `\uNNNN` and `\UNNNNNNNN` that can hold a
code point. -/
def hexEscape (n : Nat) : List Char :=
  if n < 0x100 then
    '\\' :: 'x' :: hexDigits 2 n
  else if n < 0x10000 then
    '\\' :: 'u' :: hexDigits 4 n
  else
    '\\' :: 'U' :: hexDigits 8 n

def isPrintable (c : Char) : Bool :=
  let n := c.toNat
  if n < 0x7F then 0x20 ≤ n else !inRanges unprintableRanges n

def quotedChar (quote c : Char) : List Char :=
  if c == quote || c == '\\' then ['\\', c]
  else if c == '\n' then ['\\', 'n']
  else if c == '\r' then ['\\', 'r']
  else if c == '\t' then ['\\', 't']
  else if isPrintable c then [c]
  else hexEscape c.toNat

def quoted (s : String) : String :=
  let cs := s.toList
  let quote := if cs.contains '\'' && !cs.contains '"' then '"' else '\''
  String.ofList (quote :: cs.flatMap (quotedChar quote) ++ [quote])

end TaskQuery.Text
