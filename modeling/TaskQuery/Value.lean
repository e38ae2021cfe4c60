import TaskQuery.Entries
import TaskQuery.Number.Literal
/-!
# Values

The data of records and of query literals: null, booleans, exact integers, doubles,
texts, lists and mappings, with the equality and the orders that comparisons use.

`Value.same` is equality by meaning: an integer equals a double of the same size, a
boolean counts as zero or one, and mappings are equal whatever their order.
`Value.equals` is the equality of a comparison and in addition keeps booleans apart
from everything else at the top.
-/

namespace TaskQuery

/-- A value. The keys of a mapping stand in order of insertion. -/
inductive Value where
  | null
  | bool (b : Bool)
  | int (n : Int)
  | float (d : Double)
  | text (s : String)
  | list (items : List Value)
  | mapping (entries : List (String × Value))

namespace Value

instance : Inhabited Value := ⟨.null⟩

def point? : Value → Option Extended
  | .bool b => some (.ofInt (if b then 1 else 0))
  | .int n => some (.ofInt n)
  | .float d => d.point?
  | _ => none

/-- Whether two values are equal as numbers; not-a-number equals nothing. -/
def sameNumber (a b : Value) : Bool :=
  match a.point?, b.point? with
  | some p, some q => p == q
  | _, _ => false

mutual

def same : Value → Value → Bool
  | .null, .null => true
  | .text s, .text t => s == t
  | .list xs, .list ys => sameItems xs ys
  | .mapping xs, .mapping ys => xs.length == ys.length && sameEntries xs ys
  | .bool a, other => sameNumber (.bool a) other
  | .int a, other => sameNumber (.int a) other
  | .float a, other => sameNumber (.float a) other
  | _, _ => false

def sameItems : List Value → List Value → Bool
  | [], [] => true
  | x :: xs, y :: ys => same x y && sameItems xs ys
  | _, _ => false

def sameEntries : List (String × Value) → List (String × Value) → Bool
  | [], _ => true
  | (key, x) :: rest, ys =>
      (match Entries.get? ys key with
        | some y => same x y
        | none => false) && sameEntries rest ys

end

def isBool : Value → Bool
  | .bool _ => true
  | _ => false

/-- The equality of a comparison: a boolean equals only a boolean. -/
def equals (a b : Value) : Bool :=
  a.isBool == b.isBool && same a b

def isNull : Value → Bool
  | .null => true
  | _ => false

def isNumber : Value → Bool
  | .int _ => true
  | .float _ => true
  | _ => false

def isText : Value → Bool
  | .text _ => true
  | _ => false

mutual

/-- Whether a value can be turned into a text: no integer in it has too many digits. -/
def isShowable : Value → Bool
  | .int n => Number.isShowable n
  | .list items => showableItems items
  | .mapping entries => showableEntries entries
  | _ => true

def showableItems : List Value → Bool
  | [] => true
  | item :: rest => isShowable item && showableItems rest

def showableEntries : List (String × Value) → Bool
  | [] => true
  | (_, value) :: rest => isShowable value && showableEntries rest

end

def items? : Value → Option (List Value)
  | .list items => some items
  | _ => none

def comparable (a b : Value) : Bool :=
  (a.isNumber && b.isNumber) || (a.isText && b.isText)

/-- Whether `a` comes before `b`. Numbers go by size and texts by code point; nothing
else has an order, and neither has not-a-number. -/
def before (a b : Value) : Bool :=
  match a, b with
  | .text s, .text t => s < t
  | _, _ =>
      a.isNumber && b.isNumber &&
        match a.point?, b.point? with
        | some p, some q => p.lt q
        | _, _ => false

def notAfter (a b : Value) : Bool :=
  match a, b with
  | .text s, .text t => s ≤ t
  | _, _ =>
      a.isNumber && b.isNumber &&
        match a.point?, b.point? with
        | some p, some q => p.le q
        | _, _ => false

end Value

end TaskQuery
