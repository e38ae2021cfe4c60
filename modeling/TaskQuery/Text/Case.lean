import TaskQuery.Text.CaseTable
import TaskQuery.Text.CasedTable
/-!
# Letter case

Lower and upper case of whole texts, and the classes of characters that are one
letter when case is ignored. `Text.lower` and `Text.upper` may lengthen a text and
`lower` looks at the neighbours of a capital sigma; `Text.letterClass` compares one
character with one character.
-/

namespace TaskQuery.Text

/-- Moves a code point by the first run that covers it. -/
def shiftBy (runs : List CaseRun) (c : Char) : Char :=
  match runs.find? (·.covers c.toNat) with
  | some run => Char.ofNat ((c.toNat : Int) + run.shift).toNat
  | none => c

def lowerChar (c : Char) : Char :=
  if c.toNat < 0x80 then c.toLower else shiftBy lowerRuns c

def inRanges (ranges : List (Nat × Nat)) (n : Nat) : Bool :=
  ranges.any fun r => r.1 ≤ n && n ≤ r.2

def meetsLetter (cs : List Char) : Bool :=
  match cs.dropWhile fun c => inRanges caseIgnorableRanges c.toNat with
  | [] => false
  | c :: _ => inRanges casedRanges c.toNat

/-- A capital sigma ends a word when a letter stands before it and none after it.
`before` runs backwards from the sigma. -/
def endsWord (before after : List Char) : Bool :=
  meetsLetter before && !meetsLetter after

/-- The lower case of one character between `before`, which runs backwards, and
`after`. -/
def lowerExpansion (before : List Char) (c : Char) (after : List Char) : List Char :=
  if c == 'Σ' then
    [if endsWord before after then 'ς' else 'σ']
  else if c == 'İ' then
    ['i', Char.ofNat 0x307]
  else
    [lowerChar c]

def lowerAfter (before : List Char) : List Char → List Char
  | [] => []
  | c :: after => lowerExpansion before c after ++ lowerAfter (c :: before) after

def lower (s : String) : String :=
  String.ofList (lowerAfter [] s.toList)

def upperExpansion (c : Char) : List Char :=
  if c.toNat < 0x80 then
    [c.toUpper]
  else
    match upperExpansions.lookup c.toNat with
    | some ns => ns.map Char.ofNat
    | none => [shiftBy upperRuns c]

def upper (s : String) : String :=
  String.ofList (s.toList.flatMap upperExpansion)

/-- Lower-case characters that are one letter with another, and the member of their
class that stands for it. -/
def letterTwins : List (Nat × Nat) := [
  (0x131, 0x69), (0x17F, 0x73), (0x3B9, 0x345), (0x3BC, 0xB5), (0x3C3, 0x3C2), (0x3D0, 0x3B2),
  (0x3D1, 0x3B8), (0x3D5, 0x3C6), (0x3D6, 0x3C0), (0x3F0, 0x3BA), (0x3F1, 0x3C1), (0x3F5, 0x3B5),
  (0x1C80, 0x432), (0x1C81, 0x434), (0x1C82, 0x43E), (0x1C83, 0x441), (0x1C84, 0x442),
  (0x1C85, 0x442), (0x1C86, 0x44A), (0x1C87, 0x463), (0x1E9B, 0x1E61), (0x1FBE, 0x345),
  (0x1FD3, 0x390), (0x1FE3, 0x3B0), (0xA64B, 0x1C88), (0xFB06, 0xFB05)]

/-- The character that stands for all characters equal to `c` when case is ignored. -/
def letterClass (c : Char) : Char :=
  let l := lowerChar c
  if l.toNat < 0x80 then
    l
  else
    match letterTwins.lookup l.toNat with
    | some n => Char.ofNat n
    | none => l

def sameLetter (a b : Char) : Bool :=
  letterClass a == letterClass b

end TaskQuery.Text
