import TaskQuery.Console.ColorTable
import TaskQuery.Number.Literal
import TaskQuery.Text.Case
import TaskQuery.Text.Line
/-!
# Colors

The words that stand for a color: a name, six hexadecimal digits after `#`, a number as
in `color(9)`, or three shares as in `rgb(0,9,255)`. Numbers and shares go up to 255.
-/

namespace TaskQuery.Console

/-- Why a word is no style: it names none, or a share of a color is not written as a
number, which no style can be made of. -/
inductive StyleFault where
  | unknown
  | share
  deriving DecidableEq, Repr

def isHexColor (word : List Char) : Bool :=
  match word with
  | '#' :: ds => ds.length == 6 && ds.all fun c => c.isDigit || ('a' ≤ c && c ≤ 'f')
  | _ => false

def argument? (name word : List Char) : Option (List Char) :=
  if (name ++ ['(']).isPrefixOf word && word.getLast? == some ')' then
    some ((word.drop (name.length + 1)).dropLast)
  else
    none

def isNumberedColor (word : List Char) : Bool :=
  match argument? "color".toList word with
  | some ds =>
      !ds.isEmpty && ds.length ≤ 3 && ds.all Char.isDigit && Number.ofDigits ds ≤ 255
  | none => false

def shares? (word : List Char) : Option (List (List Char)) :=
  match argument? "rgb".toList word with
  | some cs =>
      if !cs.isEmpty && cs.all fun c => c == ',' || (Text.digitValue? c).isSome then
        let parts := Text.partsBetween (· == ',') cs
        if parts.length == 3 then some parts else none
      else
        none
  | none => none

def readColor (word : String) : Except StyleFault String :=
  let color := Text.lower word
  let cs := color.toList
  if colorNames.contains color || isHexColor cs || isNumberedColor cs then
    .ok color
  else
    match shares? cs with
    | none => .error .unknown
    | some parts =>
        match parts.mapM fun part => Number.readInt? Number.digitLimit (String.ofList part) with
        | none => .error .share
        | some numbers => if numbers.all (· ≤ 255) then .ok color else .error .unknown

end TaskQuery.Console
