import TaskQuery.Query.Token
/-!
# Lexemes

What a token is written as. `Lexeme.read` takes the longest lexeme at the start of a
text: a string literal, a number, an operator, a punctuation mark or a word.
-/

namespace TaskQuery.Query

inductive LexicalFault where
  | unclosedString
  | invalidOperator
  | unexpectedCharacter
  deriving DecidableEq, Repr

/-- A lexeme at the start of a text: what it stands for, and how many characters it
takes. -/
structure Lexeme where
  kind : TokenKind
  text : List Char
  length : Nat
  length_pos : 0 < length

namespace Lexeme

def unescape (c : Char) : Char :=
  if c == 'n' then '\n'
  else if c == 't' then '\t'
  else if c == 'r' then '\r'
  else c

/-- The content of a string literal up to the closing quote, and the number of
characters read with the quote. A backslash takes the next character with it. -/
def readString? (quote : Char) : List Char → Option (List Char × Nat)
  | [] => none
  | c :: rest =>
      if c = quote then
        some ([], 1)
      else if c = '\\' then
        match rest with
        | [] => none
        | escaped :: tail =>
            (readString? quote tail).map fun (content, count) =>
              (unescape escaped :: content, count + 2)
      else
        (readString? quote rest).map fun (content, count) => (c :: content, count + 1)

/-- The characters of a number: digits, and a point with more digits if at least one
digit follows the point. -/
def readNumber (cs : List Char) : List Char :=
  let whole := cs.takeWhile Char.isDigit
  match cs.dropWhile Char.isDigit with
  | '.' :: rest =>
      match rest.takeWhile Char.isDigit with
      | [] => whole
      | fraction => whole ++ '.' :: fraction
  | _ => whole

def startsWord (c : Char) : Bool :=
  c.isAlpha || c == '_'

def continuesWord (c : Char) : Bool :=
  c.isAlphanum || c == '_'

/-- The kind of a word: a keyword in any case, else an identifier. -/
def wordKind (word : List Char) : TokenKind :=
  (TokenKind.keywords.lookup (String.ofList (word.map Char.toUpper))).getD .identifier

def plain (kind : TokenKind) (c : Char) (rest : List Char) : Lexeme :=
  { kind, text := c :: rest, length := rest.length + 1, length_pos := by omega }

def read (c : Char) (rest : List Char) : Except LexicalFault Lexeme :=
  if c = '"' ∨ c = '\'' then
    match readString? c rest with
    | some (content, count) =>
        .ok { kind := .string, text := content, length := count + 1, length_pos := by omega }
    | none => .error .unclosedString
  else if c.isDigit then
    .ok (plain .number c ((readNumber (c :: rest)).drop 1))
  else if c = '=' then .ok (plain .equals c [])
  else if c = '(' then .ok (plain .leftParen c [])
  else if c = ')' then .ok (plain .rightParen c [])
  else if c = ',' then .ok (plain .comma c [])
  else if c = '!' then
    if rest.head? = some '=' then .ok (plain .notEquals c ['=']) else .error .invalidOperator
  else if c = '<' then
    .ok (if rest.head? = some '=' then plain .lessEqual c ['='] else plain .lessThan c [])
  else if c = '>' then
    .ok (if rest.head? = some '=' then plain .greaterEqual c ['='] else plain .greaterThan c [])
  else if startsWord c then
    let word := rest.takeWhile continuesWord
    .ok (plain (wordKind (c :: word)) c word)
  else
    .error .unexpectedCharacter

end Lexeme

end TaskQuery.Query
