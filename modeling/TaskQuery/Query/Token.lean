/-!
# Tokens

The tokens of a query: their kinds, the text each stands for and the span of the query
it was read from.
-/

namespace TaskQuery.Query

inductive TokenKind where
  | identifier
  | string
  | number
  | equals
  | notEquals
  | greaterThan
  | greaterEqual
  | lessThan
  | lessEqual
  | and
  | or
  | not
  | within
  | like
  | contains
  | is
  | null
  | between
  | leftParen
  | rightParen
  | comma
  | endOfInput
  | unknown
  deriving DecidableEq, Repr

namespace TokenKind

def all : List TokenKind :=
  [.identifier, .string, .number, .equals, .notEquals, .greaterThan, .greaterEqual,
    .lessThan, .lessEqual, .and, .or, .not, .within, .like, .contains, .is, .null,
    .between, .leftParen, .rightParen, .comma, .endOfInput, .unknown]

def name : TokenKind → String
  | .identifier => "IDENTIFIER"
  | .string => "STRING"
  | .number => "NUMBER"
  | .equals => "EQUALS"
  | .notEquals => "NOT_EQUALS"
  | .greaterThan => "GREATER_THAN"
  | .greaterEqual => "GREATER_EQUAL"
  | .lessThan => "LESS_THAN"
  | .lessEqual => "LESS_EQUAL"
  | .and => "AND"
  | .or => "OR"
  | .not => "NOT"
  | .within => "IN"
  | .like => "LIKE"
  | .contains => "CONTAINS"
  | .is => "IS"
  | .null => "NULL"
  | .between => "BETWEEN"
  | .leftParen => "LPAREN"
  | .rightParen => "RPAREN"
  | .comma => "COMMA"
  | .endOfInput => "EOF"
  | .unknown => "UNKNOWN"

def ofName? (s : String) : Option TokenKind :=
  all.find? fun kind => kind.name == s

/-- The words that are not identifiers, in upper case. -/
def keywords : List (String × TokenKind) :=
  [.and, .or, .not, .within, .like, .contains, .is, .null, .between].map
    fun kind => (kind.name, kind)

theorem mem_all (kind : TokenKind) : kind ∈ all := by
  cases kind <;> simp [all]

end TokenKind

/-- A token. `text` is what it stands for: a string literal without its quotes and with
its escapes resolved, and for all other kinds the characters of the query. `position`
and `length` are the span in the query, counted in characters. -/
structure Token where
  kind : TokenKind
  text : String
  position : Nat
  length : Nat
  deriving DecidableEq, Repr

def Token.atEnd (position : Nat) : Token :=
  { kind := .endOfInput, text := "", position, length := 0 }

end TaskQuery.Query
