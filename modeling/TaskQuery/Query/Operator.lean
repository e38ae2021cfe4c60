/-!
# Operators

The comparison operators of a query and the connectives that join comparisons.
-/

namespace TaskQuery.Query

inductive Operator where
  | eq
  | ne
  | gt
  | ge
  | lt
  | le
  | within
  | notWithin
  | like
  | contains
  | isNull
  | isNotNull
  | between
  deriving DecidableEq, Repr

namespace Operator

def all : List Operator :=
  [.eq, .ne, .gt, .ge, .lt, .le, .within, .notWithin, .like, .contains, .isNull,
    .isNotNull, .between]

def symbol : Operator → String
  | .eq => "="
  | .ne => "!="
  | .gt => ">"
  | .ge => ">="
  | .lt => "<"
  | .le => "<="
  | .within => "IN"
  | .notWithin => "NOT IN"
  | .like => "LIKE"
  | .contains => "CONTAINS"
  | .isNull => "IS NULL"
  | .isNotNull => "IS NOT NULL"
  | .between => "BETWEEN"

def ofSymbol? (s : String) : Option Operator :=
  all.find? fun op => op.symbol == s

def isRange : Operator → Bool
  | .gt | .ge | .lt | .le => true
  | _ => false

theorem mem_all (op : Operator) : op ∈ all := by
  cases op <;> simp [all]

theorem ofSymbol?_symbol (op : Operator) : ofSymbol? op.symbol = some op := by
  cases op <;> rfl

end Operator

inductive Connective where
  | and
  | or
  | not
  deriving DecidableEq, Repr

namespace Connective

def symbol : Connective → String
  | .and => "AND"
  | .or => "OR"
  | .not => "NOT"

def ofSymbol? (s : String) : Option Connective :=
  [Connective.and, .or, .not].find? fun c => c.symbol == s

end Connective

end TaskQuery.Query
