import TaskQuery.Server.Compile
import TaskQuery.Query.Parse
import TaskQuery.Query.Scanner
import TaskQuery.Settings.Basic
/-!
# Selectors

A query text from end to end: its tokens, the check of its fields, its tree and what it
compiles to. Each stage runs only if the one before found no error.
-/

namespace TaskQuery.Selector

open Query Server

inductive QueryError where
  | syntactic (e : SyntaxError)
  | field (e : FieldError)
  | grammatical (e : ParseError)
  deriving DecidableEq, Repr

def QueryError.message : QueryError → String
  | .syntactic e => e.message
  | .field e => e.message
  | .grammatical e => e.message

structure Validation where
  tokens : List Token
  errors : List QueryError
  fields : List String

structure Parsed where
  tree : Expr
  fields : List String
  errors : List QueryError

def ofOutcome (o : Parse.Outcome) : Parsed :=
  { tree := o.tree
    fields := o.fields
    errors := (o.error.map QueryError.grammatical).toList }

def validate (s : Settings) (text : String) : Validation :=
  match tokenize text with
  | .error e => { tokens := [], errors := [.syntactic e], fields := [] }
  | .ok tokens =>
      let checked := s.vocabulary.check tokens
      { tokens, errors := checked.errors.map .field, fields := checked.fields }

/-- Reads a query. The tree is empty after every error but one for tokens left over. -/
def parse (s : Settings) (text : String) : Parsed :=
  match tokenize text with
  | .error e => { tree := .empty, fields := [], errors := [.syntactic e] }
  | .ok tokens =>
      let checked := s.vocabulary.check tokens
      if checked.errors.isEmpty then
        ofOutcome (parseTokens tokens)
      else
        { tree := .empty, fields := checked.fields, errors := checked.errors.map .field }

/-- Compiles a query. The errors of reading it are the errors of the result. -/
def compile (s : Settings) (text : String) : Except UnknownOperator Compilation :=
  let parsed := parse s text
  if parsed.errors.isEmpty then
    return Server.compile (← s.capabilities) parsed.tree
  else
    return { errors := parsed.errors.map QueryError.message }

/-- A refusal to use a query as a selector: it could not be read, or its tree could not
be converted to a filter. -/
inductive SelectorError where
  | reading (errors : List String)
  | conversion (errors : List String)
  deriving DecidableEq, Repr

def SelectorError.errors : SelectorError → List String
  | .reading errors => errors
  | .conversion errors => errors

def SelectorError.message : SelectorError → String
  | .reading errors => "DartQL parse errors: " ++ "; ".intercalate errors
  | .conversion errors => "DartQL conversion errors: " ++ "; ".intercalate errors

/-- Compiles a query for an operation on all the records it selects: an error is a
refusal. -/
def compileStrict (s : Settings) (text : String) :
    Except UnknownOperator (Except SelectorError Compilation) :=
  let parsed := parse s text
  if parsed.errors.isEmpty then do
    let compiled := Server.compile (← s.capabilities) parsed.tree
    if compiled.errors.isEmpty then
      return .ok compiled
    else
      return .error (.conversion compiled.errors)
  else
    return .error (.reading (parsed.errors.map QueryError.message))

end TaskQuery.Selector
