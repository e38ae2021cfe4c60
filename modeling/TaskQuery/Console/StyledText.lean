import TaskQuery.Text.Width
/-!
# Styled texts

Texts with stretches in some style. Texts are cut into pieces and put together again,
and the stretches go with their characters.
-/

namespace TaskQuery.Console

/-- The characters from `first` up to `last`, counted from the start of a text, in one
style. `showable` tells whether there is such a style. -/
structure Stretch where
  first : Nat
  last : Nat
  showable : Bool
  deriving DecidableEq, Repr

def Stretch.shift (s : Stretch) (count : Nat) : Stretch :=
  { s with first := s.first + count, last := s.last + count }

/-- The part of a stretch between two places, counted from the first of them. An empty
part is none. -/
def Stretch.within? (s : Stretch) (first last : Nat) : Option Stretch :=
  let part : Stretch :=
    { first := s.first - first, last := min s.last last - first, showable := s.showable }
  if part.first < part.last then some part else none

structure StyledText where
  chars : List Char
  stretches : List Stretch
  deriving DecidableEq, Repr

namespace StyledText

def slice (t : StyledText) (first last : Nat) : StyledText :=
  { chars := (t.chars.drop first).take (last - first)
    stretches := t.stretches.filterMap fun s => s.within? first last }

/-- The pieces between some places. A text that is not cut keeps all its stretches. -/
def divide (t : StyledText) (places : List Nat) : List StyledText :=
  if places.isEmpty then [t]
  else List.zipWith t.slice (0 :: places) (places ++ [t.chars.length])

def placesOf (p : Char → Bool) (place : Nat) : List Char → List Nat
  | [] => []
  | c :: rest =>
      if p c then place :: placesOf p (place + 1) rest else placesOf p (place + 1) rest

def lines (t : StyledText) : List StyledText :=
  let ends := placesOf (· == '\n') 0 t.chars
  if ends.isEmpty then [t]
  else List.zipWith t.slice (0 :: ends.map (· + 1)) (ends ++ [t.chars.length])

def append (a b : StyledText) : StyledText :=
  { chars := a.chars ++ b.chars
    stretches := a.stretches ++ b.stretches.map fun s => s.shift a.chars.length }

def concat (parts : List StyledText) : StyledText :=
  parts.foldr append { chars := [], stretches := [] }

def cutAt (t : StyledText) (place : Nat) : StyledText :=
  { chars := t.chars.take place
    stretches := (t.stretches.filter fun s => s.first < place).map fun s =>
      { s with last := min s.last place } }

/-- The text with other characters. Stretches do not go beyond them. -/
def withChars (t : StyledText) (cs : List Char) : StyledText :=
  if cs.length < t.chars.length then { t.cutAt cs.length with chars := cs }
  else { t with chars := cs }

def addSpaces (t : StyledText) (count : Nat) : StyledText :=
  let length := t.chars.length
  { chars := t.chars ++ List.replicate count ' '
    stretches := t.stretches.map fun s =>
      if length ≤ s.last then { s with last := s.last + count } else s }

def isShowable (t : StyledText) : Bool :=
  t.stretches.all fun s => s.showable

def runs (t : StyledText) : List (List Char) :=
  let ends := t.stretches.flatMap fun s => [s.first, s.last]
  let places := (List.range t.chars.length).filter fun place => 0 < place && ends.contains place
  (t.divide places).map fun piece => piece.chars

end StyledText

end TaskQuery.Console
