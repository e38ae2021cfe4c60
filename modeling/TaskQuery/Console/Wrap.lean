import TaskQuery.Console.StyledText
import TaskQuery.Text.Blank
/-!
# Texts in lines

Styled texts put into lines of some columns. Lines end between words if they can, tabs
go to the next multiple of eight columns, and what still does not fit is cut off.
-/

namespace TaskQuery.Console

/-- What becomes of a word that is wider than a line. -/
inductive Overflow where
  /-- It goes on in the next line. -/
  | fold
  /-- It is cut off with an ellipsis. -/
  | ellipsis
  deriving DecidableEq, Repr

/-! ## Places where lines end -/

/-- Puts a character in front of some words. A word starts after a blank. -/
def consWord (c : Char) : List (List Char) → List (List Char)
  | [] => [[c]]
  | word :: others =>
      if Text.isBlank c && word.head?.any fun d => !Text.isBlank d then
        [c] :: word :: others
      else
        (c :: word) :: others

/-- The words of a text, each with the blanks after it, the first also with those in front.
Blanks alone are no word. -/
def words (cs : List Char) : List (List Char) :=
  match cs.foldr consWord [] with
  | [] => []
  | first :: others =>
      if first.all Text.isBlank then
        match others with
        | [] => []
        | second :: more => (first ++ second) :: more
      else
        first :: others

def bareWidth (word : List Char) : Nat :=
  Text.width (word.reverse.dropWhile Text.isBlank).reverse

def cutPlaces (place : Nat) : List (List Char) → List Nat
  | [] => []
  | line :: rest =>
      (if place = 0 then [] else [place]) ++ cutPlaces (place + line.length) rest

/-- The places before which lines end in some words, of which the first is at `place` in a
line with `used` columns. -/
def lineBreaks (columns : Nat) (overflow : Overflow) (place used : Nat) :
    List (List Char) → List Nat
  | [] => []
  | word :: rest =>
      let after := place + word.length
      if used + bareWidth word ≤ columns then
        lineBreaks columns overflow after (used + Text.width word) rest
      else if columns < bareWidth word then
        match overflow with
        | .fold =>
            let lines := Text.chop columns word
            cutPlaces place lines ++
              lineBreaks columns overflow after (Text.width (lines.getLast?.getD [])) rest
        | .ellipsis =>
            cutPlaces place [word] ++
              lineBreaks columns overflow after (Text.width word) rest
      else if used = 0 || place = 0 then
        lineBreaks columns overflow after used rest
      else
        place :: lineBreaks columns overflow after (Text.width word) rest

namespace StyledText

/-! ## Tabs -/

def tabColumns : Nat := 8

def fillParts (column : Nat) : List StyledText → List StyledText
  | [] => []
  | part :: rest =>
      if part.chars.getLast? == some '\t' then
        let filled := { part with chars := part.chars.dropLast ++ [' '] }
        let column := column + Text.width filled.chars
        let missing := (tabColumns - column % tabColumns) % tabColumns
        filled.addSpaces missing :: fillParts (column + missing) rest
      else
        part :: fillParts (column + Text.width part.chars) rest

def expandTabs (t : StyledText) : StyledText :=
  if t.chars.contains '\t' then
    concat (fillParts 0 (t.divide ((placesOf (· == '\t') 0 t.chars).map (· + 1))))
  else
    t

/-! ## Cutting -/

def trimEnd (size : Nat) (t : StyledText) : StyledText :=
  let blanks := (t.chars.reverse.takeWhile Text.isBlank).length
  let excess := min blanks (t.chars.length - size)
  if excess = 0 then t else t.cutAt (t.chars.length - excess)

def truncate (columns : Nat) (overflow : Overflow) (t : StyledText) : StyledText :=
  if Text.width t.chars ≤ columns then t
  else
    match overflow with
    | .fold => t.withChars (Text.fitTo columns t.chars)
    | .ellipsis => t.withChars (Text.fitTo (columns - 1) t.chars ++ ['…'])

def wrap (columns : Nat) (overflow : Overflow) (t : StyledText) : List StyledText :=
  t.lines.flatMap fun line =>
    let line := line.expandTabs
    (line.divide (lineBreaks columns overflow 0 0 (words line.chars))).map fun part =>
      (part.trimEnd columns).truncate columns overflow

end StyledText

end TaskQuery.Console
