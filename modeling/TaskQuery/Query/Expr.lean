import TaskQuery.Query.Operator
import TaskQuery.Value
/-!
# Expressions

The tree of a query. `Expr.absent` stands where a tree has no child: in the empty query,
on the left of a negation, and in trees that were put together incompletely.
-/

namespace TaskQuery.Query

/-- A query as a tree. The value of a comparison is a literal, the list of literals of
`IN` and `NOT IN`, the two bounds of `BETWEEN` as a list, and null for a null test. A
negation has its operand on the right. -/
inductive Expr where
  | absent
  | comparison (field : String) (op : Operator) (value : Value)
  | logical (connective : Connective) (left right : Expr)
  | group (inner : Expr)

namespace Expr

instance : Inhabited Expr := ⟨.absent⟩

def and (left right : Expr) : Expr := .logical .and left right

def or (left right : Expr) : Expr := .logical .or left right

def not (operand : Expr) : Expr := .logical .not .absent operand

def empty : Expr := .group .absent

def isAbsent : Expr → Bool
  | .absent => true
  | _ => false

def fields : Expr → List String
  | .absent => []
  | .comparison field _ _ => [field]
  | .logical _ left right => left.fields ++ right.fields
  | .group inner => inner.fields

def toValue : Expr → Value
  | .absent => .null
  | .comparison field op value =>
      .mapping [("type", .text "comparison"), ("field", .text field),
        ("operator", .text op.symbol), ("value", value)]
  | .logical connective left right =>
      .mapping ([("type", .text "logical"), ("operator", .text connective.symbol)] ++
        (if left.isAbsent then [] else [("left", left.toValue)]) ++
        [("right", right.toValue)])
  | .group inner =>
      .mapping [("type", .text "group"), ("inner", inner.toValue)]

end Expr

end TaskQuery.Query
