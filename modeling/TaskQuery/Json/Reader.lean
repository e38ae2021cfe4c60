import TaskQuery.Number.Literal
import TaskQuery.Text.Digit
import TaskQuery.Value
/-!
# Reading JSON

JSON texts as values. Besides the standard grammar `NaN`, `Infinity` and `-Infinity` are
numbers, and of two entries with one key the later value wins in the place of the
earlier. An error names what was missing and where.
-/

namespace TaskQuery.Json

inductive Fault where
  | byteOrderMark
  | value
  | propertyName
  | colon
  | comma
  | extraData
  | openString
  | controlCharacter
  | escape
  | unicodeEscape
  deriving DecidableEq, Repr

def Fault.message : Fault → String
  | .byteOrderMark => "Unexpected UTF-8 BOM (decode using utf-8-sig)"
  | .value => "Expecting value"
  | .propertyName => "Expecting property name enclosed in double quotes"
  | .colon => "Expecting ':' delimiter"
  | .comma => "Expecting ',' delimiter"
  | .extraData => "Extra data"
  | .openString => "Unterminated string starting at"
  | .controlCharacter => "Invalid control character at"
  | .escape => "Invalid \\escape"
  | .unicodeEscape => "Invalid \\uXXXX escape"

/-- Why reading stopped, with the number of characters from the fault to the end of the
text. -/
inductive Failure where
  | fault (fault : Fault) (remaining : Nat)
  | longInteger
  deriving DecidableEq, Repr

def failAt {α : Type} (fault : Fault) (rest : List Char) : Except Failure α :=
  .error (.fault fault rest.length)

def isBlank (c : Char) : Bool :=
  c == ' ' || c == '\t' || c == '\n' || c == '\r'

def skipBlanks (cs : List Char) : List Char :=
  cs.dropWhile isBlank

def hexNumber? (cs : List Char) : Option Nat :=
  match (cs.take 4).mapM Text.hexValue? with
  | some [a, b, c, d] => some (((a * 16 + b) * 16 + c) * 16 + d)
  | _ => none

def isHighHalf (n : Nat) : Bool := 0xD800 ≤ n && n ≤ 0xDBFF

def isLowHalf (n : Nat) : Bool := 0xDC00 ≤ n && n ≤ 0xDFFF

/-- The character of a code unit that stands alone. No character is half a pair: the replacement
character stands in for it, so that different halves cannot be told apart any more. -/
def unitChar (n : Nat) : Char :=
  if isHighHalf n || isLowHalf n then Char.ofNat 0xFFFD else Char.ofNat n

def pairChar (high low : Nat) : Char :=
  Char.ofNat (0x10000 + (high - 0xD800) * 0x400 + (low - 0xDC00))

/-- The character of an escape `\uXXXX`, or of two that form a pair, from the characters
after `\u`, with the number of characters taken. -/
def readUnicode (cs : List Char) : Except Failure (Char × Nat) :=
  let fail : Except Failure (Char × Nat) := .error (.fault .unicodeEscape (cs.length + 1))
  if cs.length ≤ 4 then fail
  else
    match hexNumber? cs with
    | none => fail
    | some n =>
        match cs.drop 4 with
        | '\\' :: 'u' :: second =>
            if isHighHalf n && 4 < second.length then
              match hexNumber? second with
              | none => .error (.fault .unicodeEscape (second.length + 1))
              | some m => if isLowHalf m then .ok (pairChar n m, 10) else .ok (unitChar n, 4)
            else
              .ok (unitChar n, 4)
        | _ => .ok (unitChar n, 4)

def simpleEscape? (c : Char) : Option Char :=
  if c == '"' || c == '\\' || c == '/' then some c
  else if c == 'b' then some (Char.ofNat 0x08)
  else if c == 'f' then some (Char.ofNat 0x0C)
  else if c == 'n' then some '\n'
  else if c == 'r' then some '\r'
  else if c == 't' then some '\t'
  else none

/-- The characters of a string up to its closing quote, and those after it. `opening` is
the number of characters from the opening quote to the end of the text. -/
def readString (opening : Nat) (cs : List Char) : Except Failure (List Char × List Char) :=
  match cs with
  | [] => .error (.fault .openString opening)
  | c :: rest =>
      if c = '"' then
        .ok ([], rest)
      else if c = '\\' then
        match rest with
        | [] => .error (.fault .openString opening)
        | mark :: tail =>
            if mark = 'u' then do
              let (decoded, count) ← readUnicode tail
              let (content, after) ← readString opening (tail.drop count)
              return (decoded :: content, after)
            else
              match simpleEscape? mark with
              | some decoded => do
                  let (content, after) ← readString opening tail
                  return (decoded :: content, after)
              | none => .error (.fault .escape (tail.length + 2))
      else if c.toNat < 0x20 then
        failAt .controlCharacter (c :: rest)
      else do
        let (content, after) ← readString opening rest
        return (c :: content, after)
  termination_by cs.length
  decreasing_by
    all_goals
      simp only [List.length_drop, List.length_cons]
      omega

/-- A number in its parts: the sign, the digits before and after the point, the exponent,
and whether it has a point or an exponent. -/
structure NumberText where
  negative : Bool
  whole : List Char
  fraction : List Char := []
  exponent : Int := 0
  isInteger : Bool := true

/-- The digits before the point: a zero alone or digits that start with another one. -/
def readWhole? : List Char → Option (List Char × List Char)
  | [] => none
  | c :: rest =>
      if c = '0' then some ([c], rest)
      else if c.isDigit then some (c :: rest.takeWhile Char.isDigit, rest.dropWhile Char.isDigit)
      else none

def readFraction (n : NumberText) (cs : List Char) : NumberText × List Char :=
  match cs with
  | '.' :: rest =>
      match rest.takeWhile Char.isDigit with
      | [] => (n, cs)
      | fraction => ({ n with fraction, isInteger := false }, rest.dropWhile Char.isDigit)
  | _ => (n, cs)

def readExponent (n : NumberText) (cs : List Char) : NumberText × List Char :=
  match cs with
  | [] => (n, cs)
  | mark :: rest =>
      if mark = 'e' ∨ mark = 'E' then
        let (negative, digits) := Number.splitSign rest
        match digits.takeWhile Char.isDigit with
        | [] => (n, cs)
        | ds =>
            let size : Int := Number.ofDigits ds
            ({ n with exponent := if negative then -size else size, isInteger := false },
              digits.dropWhile Char.isDigit)
      else
        (n, cs)

/-- The value of a number. An integer of more than `limit` digits is refused. -/
def numberValue (limit : Option Nat) (n : NumberText) : Except Failure Value :=
  if n.isInteger then
    if limit.any (· < n.whole.length) then
      .error .longInteger
    else
      let size : Int := Number.ofDigits n.whole
      .ok (.int (if n.negative then -size else size))
  else
    let mantissa := Number.ofDigits (n.whole ++ n.fraction)
    .ok (.float (Double.ofDecimal n.negative mantissa (n.exponent - n.fraction.length)))

def readNumber (limit : Option Nat) (cs : List Char) : Except Failure (Value × List Char) :=
  let (negative, unsigned) :=
    match cs with
    | '-' :: rest => (true, rest)
    | _ => (false, cs)
  match readWhole? unsigned with
  | none => failAt .value cs
  | some (whole, rest) => do
      let (n, rest) := readFraction { negative, whole } rest
      let (n, rest) := readExponent n rest
      return (← numberValue limit n, rest)

def words : List (String × Value) :=
  [("null", .null), ("true", .bool true), ("false", .bool false), ("NaN", .float .nan),
    ("Infinity", .float (.infinite false)), ("-Infinity", .float (.infinite true))]

def readScalar (limit : Option Nat) (cs : List Char) : Except Failure (Value × List Char) :=
  match cs with
  | '"' :: rest => do
      let (content, after) ← readString cs.length rest
      return (.text (String.ofList content), after)
  | _ =>
      match words.find? fun word => word.1.toList.isPrefixOf cs with
      | some (word, value) => .ok (value, cs.drop word.length)
      | none => readNumber limit cs

def readKey (cs : List Char) : Except Failure (String × List Char) :=
  match cs with
  | '"' :: rest => do
      let (content, after) ← readString cs.length rest
      match skipBlanks after with
      | ':' :: tail => return (String.ofList content, skipBlanks tail)
      | other => failAt .colon other
  | _ => failAt .propertyName cs

mutual

/-- Reads a value. The fuel is spent on every item and every level of nesting. -/
def readValue (limit : Option Nat) : Nat → List Char → Except Failure (Value × List Char)
  | 0, cs => failAt .value cs
  | fuel + 1, cs =>
      match cs with
      | '[' :: rest =>
          match skipBlanks rest with
          | ']' :: tail => .ok (.list [], tail)
          | items => readItems limit fuel [] items
      | '{' :: rest =>
          match skipBlanks rest with
          | '}' :: tail => .ok (.mapping [], tail)
          | entries => readEntries limit fuel [] entries
      | _ => readScalar limit cs

def readItems (limit : Option Nat) : Nat → List Value → List Char →
    Except Failure (Value × List Char)
  | 0, _, cs => failAt .value cs
  | fuel + 1, read, cs => do
      let (item, rest) ← readValue limit fuel cs
      match skipBlanks rest with
      | ']' :: tail => return (.list (item :: read).reverse, tail)
      | ',' :: tail => readItems limit fuel (item :: read) (skipBlanks tail)
      | other => failAt .comma other

def readEntries (limit : Option Nat) : Nat → List (String × Value) → List Char →
    Except Failure (Value × List Char)
  | 0, _, cs => failAt .value cs
  | fuel + 1, read, cs => do
      let (key, rest) ← readKey cs
      let (value, rest) ← readValue limit fuel rest
      let entries := Entries.put read key value
      match skipBlanks rest with
      | '}' :: tail => return (.mapping entries, tail)
      | ',' :: tail => readEntries limit fuel entries (skipBlanks tail)
      | other => failAt .comma other

end

/-- A place in a text. Lines and columns count from one, characters from zero. -/
structure Place where
  line : Nat
  column : Nat
  character : Nat
  deriving DecidableEq, Repr

def Place.after (before : List Char) : Place :=
  { line := before.count '\n' + 1
    column := (before.reverse.takeWhile (· != '\n')).length + 1
    character := before.length }

inductive ReadError where
  | malformed (fault : Fault) (place : Place)
  | longInteger
  deriving DecidableEq, Repr

def malformedMessage (fault : Fault) (place : Place) : String :=
  fault.message ++
    s!": line {place.line} column {place.column} (char {place.character})"

def readDocument (limit : Option Nat) (cs : List Char) : Except Failure Value := do
  if cs.head? = some (Char.ofNat 0xFEFF) then
    failAt .byteOrderMark cs
  let (value, rest) ← readValue limit (2 * cs.length + 2) (skipBlanks cs)
  match skipBlanks rest with
  | [] => return value
  | extra => failAt .extraData extra

/-- Reads a text as one JSON document. Integers may have at most `limit` digits. -/
def read (limit : Option Nat) (text : String) : Except ReadError Value :=
  let cs := text.toList
  match readDocument limit cs with
  | .ok value => .ok value
  | .error .longInteger => .error .longInteger
  | .error (.fault fault remaining) =>
      .error (.malformed fault (.after (cs.take (cs.length - remaining))))

end TaskQuery.Json
