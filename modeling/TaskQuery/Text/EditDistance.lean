import TaskQuery.Text.Case
/-!
# Edit distance and near matches

The least number of single-character insertions, deletions and substitutions that
turn one text into another, and the candidates that lie near a word by it.
-/

namespace TaskQuery.Text

/-- The distances from `x :: xs` to every suffix of `ys`, longest suffix first, given
those from `xs`. -/
def nextDistances (x : Char) : List Char → List Nat → List Nat
  | [], row => [row.headD 0 + 1]
  | y :: ys, row =>
      let diagonal := row.tail
      let shorter := nextDistances x ys diagonal
      let here :=
        if x = y then diagonal.headD 0
        else min (diagonal.headD 0) (min (row.headD 0) (shorter.headD 0)) + 1
      here :: shorter

def suffixLengths : List Char → List Nat
  | [] => [0]
  | _ :: ys => (ys.length + 1) :: suffixLengths ys

/-- The distances from `xs` to every suffix of `ys`, longest suffix first. -/
def suffixDistances (xs ys : List Char) : List Nat :=
  xs.foldr (fun x row => nextDistances x ys row) (suffixLengths ys)

def editDistance (a b : String) : Nat :=
  (suffixDistances a.toList b.toList).headD 0

/-- The earliest candidate of least distance to `word`, if that distance is at most
`threshold`. -/
def closest? (word : String) (candidates : List String) (threshold : Int) : Option String :=
  let keep (best : Option String × Int) (candidate : String) : Option String × Int :=
    let distance : Int := editDistance word candidate
    if distance < best.2 then (some candidate, distance) else best
  (candidates.foldl keep (none, threshold + 1)).1

def caselessDistance (a b : String) : Nat :=
  editDistance (lower a) (lower b)

/-- The candidates at most `threshold` from `word` without regard to case, the nearest
first and the earlier of two equally near ones first. -/
def rankedMatches (word : String) (candidates : List String) (threshold : Int) : List String :=
  let scored := candidates.map fun candidate => (caselessDistance word candidate, candidate)
  let near := scored.filter fun entry => (entry.1 : Int) ≤ threshold
  (near.mergeSort fun a b => a.1 ≤ b.1).map Prod.snd

/-- The first `limit` elements; a negative limit counts what is left off at the end. -/
def takeLimit {α : Type} (limit : Int) (xs : List α) : List α :=
  if limit < 0 then xs.take (xs.length - limit.natAbs) else xs.take limit.toNat

def closestMatches (word : String) (candidates : List String) (threshold limit : Int) :
    List String :=
  takeLimit limit (rankedMatches word candidates threshold)

end TaskQuery.Text
