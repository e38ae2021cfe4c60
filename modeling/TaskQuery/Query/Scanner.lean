import TaskQuery.Query.Lexeme
import TaskQuery.Text.Blank
/-!
# Scanning

A query text as a list of tokens that ends with one for the end of the input. A
`Scanner` keeps its place between calls: each call goes on from there and adds to the
tokens it holds.
-/

namespace TaskQuery.Query

structure SyntaxError where
  fault : LexicalFault
  position : Nat
  character : Char
  deriving DecidableEq, Repr

namespace SyntaxError

def message (e : SyntaxError) : String :=
  match e.fault with
  | .unclosedString => s!"Unterminated string literal starting at position {e.position}"
  | .invalidOperator => "Invalid operator starting with '" ++ toString e.character ++ "'"
  | .unexpectedCharacter => "Unexpected character: '" ++ toString e.character ++ "'"

end SyntaxError

/-- What reading a text to its end or to the first fault gives: the tokens, the place
where reading stopped, and the fault. -/
structure Scan where
  tokens : List Token
  position : Nat
  fault : Option SyntaxError
  deriving DecidableEq, Repr

/-- Reads the characters from `position` on. A string that is never closed takes the
rest of the text; the other faults stop in front of the character at fault. -/
def Scan.read (position : Nat) : List Char → Scan
  | [] => { tokens := [], position, fault := none }
  | c :: rest =>
      if Text.isBlank c then
        Scan.read (position + 1) rest
      else
        match Lexeme.read c rest with
        | .error fault =>
            { tokens := []
              position :=
                if fault = .unclosedString then position + (rest.length + 1) else position
              fault := some { fault, position, character := c } }
        | .ok lexeme =>
            let token : Token :=
              { kind := lexeme.kind
                text := String.ofList lexeme.text
                position
                length := lexeme.length }
            let after := Scan.read (position + lexeme.length) (rest.drop (lexeme.length - 1))
            { after with tokens := token :: after.tokens }
  termination_by cs => cs.length
  decreasing_by
    all_goals
      simp only [List.length_drop, List.length_cons]
      omega

/-- A text being scanned, the place reached in it and the tokens held. -/
structure Scanner where
  text : List Char
  position : Nat
  tokens : List Token
  deriving DecidableEq, Repr

namespace Scanner

def ofText (text : String) : Scanner :=
  { text := (Text.strip text).toList, position := 0, tokens := [] }

/-- Reads on to the end of the text and adds its tokens and an end token, or stops at
the first fault with the tokens in front of it. -/
def advance (s : Scanner) : Scanner × Option SyntaxError :=
  let scan := Scan.read s.position (s.text.drop s.position)
  let closing := if scan.fault.isNone then [Token.atEnd scan.position] else []
  ({ s with position := scan.position, tokens := s.tokens ++ scan.tokens ++ closing },
    scan.fault)

end Scanner

def tokenize (text : String) : Except SyntaxError (List Token) :=
  match (Scanner.ofText text).advance with
  | (_, some fault) => .error fault
  | (scanner, none) => .ok scanner.tokens

end TaskQuery.Query
