import TaskQuery.Server.Capabilities
import TaskQuery.Query.Evaluate
/-!
# Compilation of a query to a server filter

A query goes to the server as a whole or not at all. The walk over the tree enters each
comparison that the server can make into one flat filter and notes a reason for each
part that it cannot. Without a reason the filter is the result; otherwise the whole
tree is evaluated on the client and the filter is dropped.
-/

namespace TaskQuery.Server

open Query (Expr Operator evaluate)

inductive Reason where
  | disjunction
  | negation
  | unsupportedField (field : String)
  | clientOperator (op : Operator)
  | rangeOperator (op : Operator) (field : String)
  | unsupportedOperator (op : Operator) (field : String)
  | nullComparison (field : String)
  | conflict (field : String)
  deriving DecidableEq, Repr

def Reason.message : Reason → String
  | .disjunction => "OR logic requires client-side filtering (API only supports AND)"
  | .negation => "NOT logic requires client-side filtering"
  | .unsupportedField field => "Field '" ++ field ++ "' not supported by API filters"
  | .clientOperator op => op.symbol ++ " operator requires client-side filtering"
  | .rangeOperator op field =>
      "Range operator '" ++ op.symbol ++ "' on '" ++ field ++
        "' requires client-side filtering (API only supports equality)"
  | .unsupportedOperator op field =>
      "Operator '" ++ op.symbol ++ "' not supported by API for field '" ++ field ++ "'"
  | .nullComparison field =>
      "Comparison with NULL on '" ++ field ++ "' requires client-side filtering"
  | .conflict field =>
      "Field '" ++ field ++
        "' is constrained more than once; requires client-side filtering"

def clientWarning : String :=
  "Query requires client-side filtering which may impact performance. " ++
    "Consider using simpler queries with API-supported filters for better performance."

/-- What has been gathered so far: the entries of the server filter and the reasons. -/
structure Walk where
  filter : Entries String Value
  reasons : List Reason

namespace Walk

def start : Walk := { filter := [], reasons := [] }

def refuse (w : Walk) (reason : Reason) : Bool × Walk :=
  (false, { w with reasons := w.reasons ++ [reason] })

/-- Enters a value under a request parameter. An entry that is there already has to be
equal. -/
def enter (w : Walk) (field key : String) (value : Value) : Bool × Walk :=
  let accepted : Bool × Walk := (true, { w with filter := w.filter.put key value })
  match w.filter.get? key with
  | some earlier => if earlier.same value then accepted else w.refuse (.conflict field)
  | none => accepted

def sentValue (c : Capabilities) (key : String) (value : Value) : Value :=
  if c.takesList key then .list [value] else value

def visitComparison (c : Capabilities) (w : Walk) (field : String) (op : Operator)
    (value : Value) : Bool × Walk :=
  if !c.supportsField field then
    w.refuse (.unsupportedField field)
  else if isClientOperator op then
    w.refuse (.clientOperator op)
  else
    match c.parameter? field op with
    | none =>
        w.refuse (if op.isRange then .rangeOperator op field else .unsupportedOperator op field)
    | some key =>
        if value.isNull then w.refuse (.nullComparison field)
        else w.enter field key (sentValue c key value)

/-- Visits a tree from left to right. The verdict is whether all of it can go to the
server. -/
def visit (c : Capabilities) (w : Walk) : Expr → Bool × Walk
  | .absent => (false, w)
  | .comparison field op value => w.visitComparison c field op value
  | .logical .and left right =>
      let (leftOk, afterLeft) := w.visit c left
      let (rightOk, afterRight) := afterLeft.visit c right
      (leftOk && rightOk, afterRight)
  | .logical .or _ _ => w.refuse .disjunction
  | .logical .not _ _ => w.refuse .negation
  | .group inner => w.visit c inner

end Walk

/-- What a query compiles to: a filter for the server, or a query that the client
evaluates, or errors. -/
structure Compilation where
  serverFilter : Entries String Value := []
  clientQuery : Option Expr := none
  warnings : List String := []
  errors : List String := []

namespace Compilation

def requiresClient (c : Compilation) : Bool :=
  c.clientQuery.isSome

def apply (c : Compilation) (records : List Value) : List Value :=
  match c.clientQuery with
  | none => records
  | some query => records.filter (evaluate query)

end Compilation

def conversionError (cause : String) : String :=
  "Failed to convert AST to filters: " ++ cause

def emptyQueryError : String :=
  conversionError "Cannot compile an empty query"

/-- The error of a filter with an integer of too many digits. -/
def longIntegerError : String :=
  conversionError
    (s!"Exceeds the limit ({Number.digitLimit} digits) for integer string conversion; " ++
      "use sys.set_int_max_str_digits() to increase the limit")

def isEmptyQuery : Expr → Bool
  | .group .absent => true
  | _ => false

/-- What a query compiles to after the walk over it. A filter for the server is turned into a
text for the log before it is passed on, and if that fails the failure is all that is left. -/
def Walk.result (w : Walk) (query : Expr) (verdict : Bool) : Compilation :=
  if verdict then
    if Value.showableEntries w.filter then { serverFilter := w.filter }
    else { errors := [longIntegerError] }
  else
    { clientQuery := some query
      warnings := clientWarning :: w.reasons.map Reason.message }

/-- A compiler that is used for one query after another. It keeps the walk that it made
over the last one. -/
structure Compiler where
  capabilities : Capabilities
  walk : Walk := .start

namespace Compiler

def fresh (c : Capabilities) : Compiler := { capabilities := c }

def reset (m : Compiler) : Compiler := { m with walk := .start }

def advance (m : Compiler) (query : Expr) : Bool × Compiler :=
  let (verdict, walk) := m.walk.visit m.capabilities query
  (verdict, { m with walk })

def compile (m : Compiler) (query : Expr) : Compilation × Compiler :=
  if isEmptyQuery query then
    ({ errors := [emptyQueryError] }, m.reset)
  else
    let (verdict, m) := m.reset.advance query
    (m.walk.result query verdict, m)

def compileAll (m : Compiler) (queries : List Expr) : Compiler :=
  queries.foldl (fun m query => (m.compile query).2) m

end Compiler

def compile (c : Capabilities) (query : Expr) : Compilation :=
  ((Compiler.fresh c).compile query).1

variable {query : Expr}

theorem Compiler.compile_of_empty (m : Compiler) (h : isEmptyQuery query = true) :
    m.compile query = ({ errors := [emptyQueryError] }, m.reset) := by
  rw [Compiler.compile, if_pos h]

/-- The walk over a tree does not start where the one before has ended. -/
theorem Compiler.compile_of_not_empty (m : Compiler) (h : isEmptyQuery query = false) :
    m.compile query =
      ((Walk.start.visit m.capabilities query).2.result query
          (Walk.start.visit m.capabilities query).1,
        { m with walk := (Walk.start.visit m.capabilities query).2 }) := by
  rw [Compiler.compile, h, if_neg Bool.false_ne_true]
  rfl

theorem compile_of_empty (c : Capabilities) (h : isEmptyQuery query = true) :
    compile c query = { errors := [emptyQueryError] } := by
  rw [compile, Compiler.compile_of_empty _ h]

theorem compile_of_not_empty (c : Capabilities) (h : isEmptyQuery query = false) :
    compile c query =
      (Walk.start.visit c query).2.result query (Walk.start.visit c query).1 := by
  rw [compile, Compiler.compile_of_not_empty _ h]
  rfl

end TaskQuery.Server
