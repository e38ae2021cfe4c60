import TaskQuery.Query.Expr
import TaskQuery.Text.Occurrence
import TaskQuery.Text.Wildcard
/-!
# Evaluation

Which records a query selects. A comparison whose sides do not fit its operator is
false, and so is every comparison of something that is no mapping.
-/

namespace TaskQuery.Query

def hasItem (items : List Value) (value : Value) : Bool :=
  items.any fun item => item.equals value

/-- Equality of a field and a literal. A field with a list equals each of its items. -/
def matchesValue (actual expected : Value) : Bool :=
  match actual, expected with
  | .list _, .list _ => actual.equals expected
  | .list items, _ => hasItem items expected
  | _, _ => actual.equals expected

/-- Whether a value equals one of the listed ones; false if there is no list. -/
def isWithin (actual expected : Value) : Bool :=
  match expected with
  | .list items => items.any fun item => actual.equals item
  | _ => false

def isNotWithin (actual expected : Value) : Bool :=
  match expected with
  | .list items => !items.any fun item => actual.equals item
  | _ => false

def containsValue (actual expected : Value) : Bool :=
  match actual, expected with
  | .list items, _ => hasItem items expected
  | .text s, .text part => Text.occursIn part.toList s.toList
  | _, _ => false

/-- Whether a value lies between two bounds of its own kind, both included. -/
def isBetween (actual expected : Value) : Bool :=
  match expected with
  | .list [low, high] =>
      actual.comparable low && actual.comparable high &&
        low.notAfter actual && actual.notAfter high
  | _ => false

def isLikeValue (actual expected : Value) : Bool :=
  match actual, expected with
  | .text s, .text pattern => Text.isLike pattern s
  | _, _ => false

def Operator.holds (op : Operator) (actual expected : Value) : Bool :=
  match op with
  | .eq => matchesValue actual expected
  | .ne => !matchesValue actual expected
  | .gt => expected.before actual
  | .ge => expected.notAfter actual
  | .lt => actual.before expected
  | .le => actual.notAfter expected
  | .within => isWithin actual expected
  | .notWithin => isNotWithin actual expected
  | .like => isLikeValue actual expected
  | .contains => containsValue actual expected
  | .isNull => actual.isNull
  | .isNotNull => !actual.isNull
  | .between => isBetween actual expected

def fieldOf (record : Entries String Value) (field : String) : Value :=
  (record.get? field).getD .null

def selects (record : Entries String Value) : Expr → Bool
  | .absent => false
  | .comparison field op value => op.holds (fieldOf record field) value
  | .logical .and left right => selects record left && selects record right
  | .logical .or left right => selects record left || selects record right
  | .logical .not _ right => !selects record right
  | .group inner => selects record inner

/-- Whether a query selects a value, which has to be a mapping. -/
def evaluate (query : Expr) (value : Value) : Bool :=
  match value with
  | .mapping record => selects record query
  | _ => false

end TaskQuery.Query
