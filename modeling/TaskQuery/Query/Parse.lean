import TaskQuery.Number.Literal
import TaskQuery.Query.Expr
import TaskQuery.Query.Token
import TaskQuery.Text.Case
/-!
# From tokens to a tree

Tokens are read one at a time from left to right. What has been read is held as the
phase of the comparison at hand and, for each open parenthesis, the operands that wait
for the next one: the left side of an `OR`, the left side of an `AND`, and the number of
negations. `AND` binds tighter than `OR`, `NOT` tighter than both, and chains lean left.

Every token is either taken or ends the reading, so the place of an error is the number
of tokens taken before it.
-/

namespace TaskQuery.Query

inductive Wanted where
  | field
  | operator
  | value
  | numberLiteral
  | nullWord
  | rangeAnd
  | listOpening
  | listClosing
  | groupClosing
  deriving DecidableEq, Repr

def Wanted.message : Wanted → String
  | .field => "Expected field name"
  | .operator => "Expected comparison operator"
  | .value => "Expected value (string, number, or NULL)"
  | .numberLiteral => "Invalid number literal"
  | .nullWord => "Expected NULL after IS or IS NOT"
  | .rangeAnd => "Expected AND in BETWEEN clause"
  | .listOpening => "Expected opening parenthesis for IN clause"
  | .listClosing => "Expected closing parenthesis for IN clause"
  | .groupClosing => "Expected closing parenthesis"

/-- The reasons why a list of tokens is no query: it is empty, a token is not what was
wanted, tokens are left over, or the list opens operands without end. -/
inductive ParseError where
  | emptyQuery
  | mismatch (wanted : Wanted) (found : Token)
  | leftover (found : Token)
  | endless
  deriving DecidableEq, Repr

def ParseError.message : ParseError → String
  | .emptyQuery => "Empty query"
  | .mismatch wanted found =>
      let shown := if found.kind = .endOfInput then "end of input" else "'" ++ found.text ++ "'"
      wanted.message ++ ", got " ++ shown ++ s!" at position {found.position}"
  | .leftover found =>
      "Unexpected token: '" ++ found.text ++ s!"' at position {found.position}"
  | .endless => "Unfinished query"

inductive Literal where
  | value (v : Value)
  | badNumber
  | none

/-- The literal of a token. A number with a point is a double, any other an integer. -/
def Literal.ofToken (t : Token) : Literal :=
  match t.kind with
  | .string => .value (.text t.text)
  | .null => .value .null
  | .number =>
      if t.text.toList.contains '.' then
        match Number.readDecimal? t.text with
        | some d => .value (.float d)
        | Option.none => .badNumber
      else
        match Number.readInt? Number.digitLimit t.text with
        | some n => .value (.int n)
        | Option.none => .badNumber
  | _ => .none

def Operator.ofToken? (kind : TokenKind) : Option Operator :=
  match kind with
  | .equals => some .eq
  | .notEquals => some .ne
  | .greaterThan => some .gt
  | .greaterEqual => some .ge
  | .lessThan => some .lt
  | .lessEqual => some .le
  | .like => some .like
  | .contains => some .contains
  | _ => none

namespace Parse

/-- The operands that wait inside one pair of parentheses, or at the top. -/
structure Level where
  disjunct : Option Expr := none
  conjunct : Option Expr := none
  negations : Nat := 0

namespace Level

def negate : Nat → Expr → Expr
  | 0, e => e
  | n + 1, e => .not (negate n e)

def conjoin (level : Level) (operand : Expr) : Expr :=
  match level.conjunct with
  | none => negate level.negations operand
  | some left => .and left (negate level.negations operand)

def whole (level : Level) (operand : Expr) : Expr :=
  match level.disjunct with
  | none => level.conjoin operand
  | some left => .or left (level.conjoin operand)

def afterAnd (level : Level) (operand : Expr) : Level :=
  { disjunct := level.disjunct, conjunct := some (level.conjoin operand) }

def afterOr (level : Level) (operand : Expr) : Level :=
  { disjunct := some (level.whole operand) }

end Level

/-- What has been read of the operand at hand. -/
inductive Phase where
  /-- Nothing: a field, `NOT` or `(` comes next. -/
  | operand
  /-- The `NOT` that is the token `word`. -/
  | negation (word : Token)
  /-- A field. -/
  | operator (field : String)
  /-- A field and the `NOT` that is the token `word`. -/
  | fieldNot (field : String) (word : Token)
  /-- A field and `IS`. -/
  | isTest (field : String)
  /-- A field and `IS NOT`. -/
  | isNotTest (field : String)
  /-- A field and an operator that takes one literal. -/
  | literal (field : String) (op : Operator)
  /-- A field and `BETWEEN`. -/
  | lowBound (field : String)
  /-- A field, `BETWEEN` and the lower bound. -/
  | rangeAnd (field : String) (low : Value)
  /-- A field, `BETWEEN`, the lower bound and `AND`. -/
  | highBound (field : String) (low : Value)
  /-- A field and `IN` or `NOT IN`. -/
  | listOpening (field : String) (op : Operator)
  /-- The same and `(`. -/
  | firstItem (field : String) (op : Operator)
  /-- The same and items, the last of them first, each but the last with its comma. -/
  | listClosing (field : String) (op : Operator) (items : List Value)
  /-- The same with a comma after the last item. -/
  | nextItem (field : String) (op : Operator) (items : List Value)
  /-- A whole operand. -/
  | complete (operand : Expr)

/-- The state between two tokens: the operand at hand, the levels from the innermost
outwards, the fields in order of first sight and the number of tokens taken. -/
structure State where
  phase : Phase
  level : Level
  outer : List Level
  fields : List String
  position : Nat

/-- What a list of tokens is read as. The tree is empty after an error other than
tokens left over. -/
structure Outcome where
  tree : Expr
  fields : List String
  error : Option ParseError
  position : Nat

inductive Step where
  | next (s : State)
  | stop (o : Outcome)

namespace State

def start : State :=
  { phase := .operand, level := {}, outer := [], fields := [], position := 0 }

def take (s : State) (phase : Phase) : Step :=
  .next { s with phase, position := s.position + 1 }

def giveBack (s : State) : State :=
  { s with position := s.position - 1 }

def fail (s : State) (wanted : Wanted) (found : Token) : Step :=
  .stop
    { tree := .empty
      fields := s.fields
      error := some (.mismatch wanted found)
      position := s.position }

/-- Takes a literal. A number that cannot be read is taken before it is refused. -/
def takeLiteral (s : State) (t : Token) (phase : Value → Phase) : Step :=
  match Literal.ofToken t with
  | .value v => s.take (phase v)
  | .badNumber => { s with position := s.position + 1 }.fail .numberLiteral t
  | .none => s.fail .value t

def takeField (s : State) (t : Token) : Step :=
  let field := Text.lower t.text
  let fields := if s.fields.contains field then s.fields else s.fields ++ [field]
  { s with fields }.take (.operator field)

def takeOperand (s : State) (t : Token) : Step :=
  match t.kind with
  | .not => s.take (.negation t)
  | .leftParen => { s with level := {}, outer := s.level :: s.outer }.take .operand
  | .identifier => s.takeField t
  | _ => s.fail .field t

def takeOperator (s : State) (field : String) (t : Token) : Step :=
  match t.kind with
  | .is => s.take (.isTest field)
  | .not => s.take (.fieldNot field t)
  | .within => s.take (.listOpening field .within)
  | .between => s.take (.lowBound field)
  | kind =>
      match Operator.ofToken? kind with
      | some op => s.take (.literal field op)
      | none => s.fail .operator t

def takeConnective (s : State) (operand : Expr) (t : Token) : Step :=
  match t.kind, s.outer with
  | .and, _ => { s with level := s.level.afterAnd operand }.take .operand
  | .or, _ => { s with level := s.level.afterOr operand }.take .operand
  | .rightParen, level :: outer =>
      { s with level, outer }.take (.complete (.group (s.level.whole operand)))
  | _, _ :: _ => s.fail .groupClosing t
  | kind, [] =>
      .stop
        { tree := s.level.whole operand
          fields := s.fields
          error := if kind = .endOfInput then none else some (.leftover t)
          position := s.position }

end State

def step (s : State) (t : Token) : Step :=
  match s.phase with
  | .operand => s.takeOperand t
  | .negation word =>
      if t.kind = .within then
        s.giveBack.fail .field word
      else
        { s with level := { s.level with negations := s.level.negations + 1 } }.takeOperand t
  | .operator field => s.takeOperator field t
  | .fieldNot field word =>
      if t.kind = .within then s.take (.listOpening field .notWithin)
      else s.giveBack.fail .operator word
  | .isTest field =>
      if t.kind = .null then s.take (.complete (.comparison field .isNull .null))
      else if t.kind = .not then s.take (.isNotTest field)
      else s.fail .nullWord t
  | .isNotTest field =>
      if t.kind = .null then s.take (.complete (.comparison field .isNotNull .null))
      else s.fail .nullWord t
  | .literal field op => s.takeLiteral t fun v => .complete (.comparison field op v)
  | .lowBound field => s.takeLiteral t fun v => .rangeAnd field v
  | .rangeAnd field low =>
      if t.kind = .and then s.take (.highBound field low) else s.fail .rangeAnd t
  | .highBound field low =>
      s.takeLiteral t fun v => .complete (.comparison field .between (.list [low, v]))
  | .listOpening field op =>
      if t.kind = .leftParen then s.take (.firstItem field op) else s.fail .listOpening t
  | .firstItem field op =>
      if t.kind = .rightParen then s.take (.complete (.comparison field op (.list [])))
      else s.takeLiteral t fun v => .listClosing field op [v]
  | .listClosing field op items =>
      if t.kind = .comma then s.take (.nextItem field op items)
      else if t.kind = .rightParen then
        s.take (.complete (.comparison field op (.list items.reverse)))
      else s.fail .listClosing t
  | .nextItem field op items =>
      s.takeLiteral t fun v => .listClosing field op (v :: items)
  | .complete operand => s.takeConnective operand t

def run (s : State) : List Token → Outcome
  | [] =>
      { tree := .empty, fields := s.fields, error := some .endless, position := s.position }
  | t :: rest =>
      match step s t with
      | .next after => run after rest
      | .stop outcome => outcome

end Parse

/-- Reads a list of tokens as a query. A list that does not end with the end of the
input goes on with its last token, which is read often enough to close all that is open. -/
def parseTokens (tokens : List Token) : Parse.Outcome :=
  let refused : Parse.Outcome :=
    { tree := .empty, fields := [], error := some .emptyQuery, position := 0 }
  match tokens with
  | [] => refused
  | first :: rest =>
      if first.kind = .endOfInput then
        refused
      else
        let last := rest.getLastD first
        Parse.run .start (tokens ++ List.replicate (tokens.length + 2) last)

end TaskQuery.Query
