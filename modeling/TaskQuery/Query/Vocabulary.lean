import TaskQuery.Query.Token
import TaskQuery.Text.EditDistance
/-!
# Vocabulary

The field names that a query may use. The check runs over the tokens alone, reports
every unknown field and every `IS` that cannot be a null test, and suggests the nearest
known field.
-/

namespace TaskQuery.Query

/-- The known fields, and the greatest edit distance of a suggestion. -/
structure Vocabulary where
  fields : List String
  threshold : Int

inductive FieldError where
  | unknownField (name : String) (position : Nat) (known : List String)
      (suggestion : Option String)
  | strayIs (position : Nat)
  deriving DecidableEq, Repr

def FieldError.message : FieldError → String
  | .unknownField name position _ (some suggestion) =>
      "Unknown field: '" ++ name ++ "'. Did you mean '" ++ suggestion ++
        s!"'? (at position {position})"
  | .unknownField name position known none =>
      "Unknown field: '" ++ name ++ "'. Valid fields: " ++ ", ".intercalate known ++
        s!" (at position {position})"
  | .strayIs position =>
      s!"IS keyword must be followed by NULL or NOT NULL at position {position}"

structure FieldCheck where
  errors : List FieldError
  fields : List String
  deriving DecidableEq, Repr

namespace Vocabulary

def standardFields : List String :=
  ["status", "priority", "size", "title", "description", "assignee", "dartboard", "tags",
    "created_at", "updated_at", "due_at", "start_at", "completed_at", "parent_task", "id",
    "dart_id", "subtask_ids", "blocker_ids", "blocking_ids", "duplicate_ids",
    "related_ids"]

def standardThreshold : Int := 2

def standard : Vocabulary :=
  { fields := standardFields, threshold := standardThreshold }

/-- The field suggested for an unknown one. An empty name is no suggestion. -/
def suggestion? (v : Vocabulary) (field : String) : Option String :=
  (Text.closest? field v.fields v.threshold).filter fun s => !s.isEmpty

def errorAt? (v : Vocabulary) (t : Token) (following : Option Token) : Option FieldError :=
  match t.kind with
  | .identifier =>
      let field := Text.lower t.text
      if v.fields.contains field then none
      else some (.unknownField t.text t.position v.fields (v.suggestion? field))
  | .is =>
      match following with
      | some next =>
          if next.kind = .null ∨ next.kind = .not then none else some (.strayIs t.position)
      | none => some (.strayIs t.position)
  | _ => none

def errors (v : Vocabulary) : List Token → List FieldError
  | [] => []
  | t :: rest => (v.errorAt? t rest.head?).toList ++ v.errors rest

end Vocabulary

/-- A list without repetitions, each element at its first place. -/
def distinct (names : List String) : List String :=
  names.foldl (fun seen name => if seen.contains name then seen else seen ++ [name]) []

def namedFields (tokens : List Token) : List String :=
  distinct ((tokens.filter fun t => t.kind = .identifier).map fun t => Text.lower t.text)

def Vocabulary.check (v : Vocabulary) (tokens : List Token) : FieldCheck :=
  { errors := v.errors tokens, fields := namedFields tokens }

/-- A check of one list of tokens that can be made again. It keeps what the last call has
found. -/
structure Checker where
  vocabulary : Vocabulary
  tokens : List Token
  found : FieldCheck := { errors := [], fields := [] }

namespace Checker

def reset (m : Checker) : Checker :=
  { m with found := { errors := [], fields := [] } }

def visit (m : Checker) (t : Token) (following : Option Token) : Checker :=
  let error := m.vocabulary.errorAt? t following
  let field := Text.lower t.text
  let isNew := t.kind = .identifier && !m.found.fields.contains field
  { m with
    found :=
      { errors := m.found.errors ++ error.toList
        fields := if isNew then m.found.fields ++ [field] else m.found.fields } }

def visitAll (m : Checker) : List Token → Checker
  | [] => m
  | t :: rest => (m.visit t rest.head?).visitAll rest

def analyze (m : Checker) : FieldCheck × Checker :=
  let m := m.reset.visitAll m.tokens
  (m.found, m)

end Checker

end TaskQuery.Query
