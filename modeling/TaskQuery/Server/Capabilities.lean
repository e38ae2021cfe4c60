import TaskQuery.Entries
import TaskQuery.Query.Operator
import TaskQuery.Text.Case
import TaskQuery.Text.Quoted
/-!
# Capabilities of the server

What the task server can filter by: for each field the operators it knows and the
request parameter of each, and the parameters that take a list. Field names are kept in
lower case and operators in upper case, so that a later spelling of the same name takes
the place of an earlier one.
-/

namespace TaskQuery.Server

open Query (Operator)

/-- Request parameters by field and by operator, as they are written in settings. -/
abbrev FilterTable := Entries String (Entries String String)

structure Capabilities where
  filters : Entries String (Entries Operator String)
  listValued : List String

structure UnknownOperator where
  name : String
  deriving DecidableEq, Repr

def UnknownOperator.message (e : UnknownOperator) : String :=
  Text.quoted e.name ++ " is not a valid ComparisonOperator"

def operatorNamed (name : String) : Except UnknownOperator Operator :=
  match Operator.ofSymbol? (Text.upper name) with
  | some op => .ok op
  | none => .error { name := Text.upper name }

namespace Capabilities

def readOperators (operators : Entries String String) :
    Except UnknownOperator (Entries Operator String) :=
  operators.foldlM (fun read entry => do
    return read.put (← operatorNamed entry.1) entry.2) []

def ofTable (table : FilterTable) (listValued : List String) :
    Except UnknownOperator Capabilities := do
  let filters ← table.foldlM (fun read entry => do
    return Entries.put read (Text.lower entry.1) (← readOperators entry.2)) []
  return { filters, listValued }

def supportsField (c : Capabilities) (field : String) : Bool :=
  c.filters.has field

def parameter? (c : Capabilities) (field : String) (op : Operator) : Option String :=
  (c.filters.get? field).bind fun operators => operators.get? op

def takesList (c : Capabilities) (key : String) : Bool :=
  c.listValued.contains key

def standardTable : FilterTable :=
  [("status", [("=", "status")]),
    ("assignee", [("=", "assignee")]),
    ("dartboard", [("=", "dartboard")]),
    ("priority", [("=", "priority")]),
    ("tags", [("=", "tags")]),
    ("due_at",
      [("=", "due_at"), ("<", "due_before"), ("<=", "due_before"), (">", "due_after"),
        (">=", "due_after")])]

def standardListValued : List String := ["tags"]

def standard : Capabilities :=
  { filters :=
      [("status", [(.eq, "status")]),
        ("assignee", [(.eq, "assignee")]),
        ("dartboard", [(.eq, "dartboard")]),
        ("priority", [(.eq, "priority")]),
        ("tags", [(.eq, "tags")]),
        ("due_at",
          [(.eq, "due_at"), (.lt, "due_before"), (.le, "due_before"), (.gt, "due_after"),
            (.ge, "due_after")])]
    listValued := standardListValued }

end Capabilities

/-- Whether the server never compares by an operator, whatever the field. -/
def isClientOperator : Operator → Bool
  | .ne | .within | .notWithin | .like | .contains | .isNull | .isNotNull | .between => true
  | .eq | .gt | .ge | .lt | .le => false

end TaskQuery.Server
