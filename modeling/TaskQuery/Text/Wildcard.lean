import TaskQuery.Text.Case
/-!
# Wildcard patterns

A pattern is matched against a whole text without regard to case: `%` stands for any
run of characters, `_` for one character, and every other character for itself.
`Wildcard.accepts` looks at each pair of a pattern suffix and a text suffix once.
-/

namespace TaskQuery.Text

inductive Wildcard where
  | anyRun
  | anyChar
  | letter (c : Char)
  deriving DecidableEq, Repr

namespace Wildcard

def ofChar (c : Char) : Wildcard :=
  if c == '%' then .anyRun else if c == '_' then .anyChar else .letter c

def takes : Wildcard → Char → Bool
  | .anyRun, _ => true
  | .anyChar, _ => true
  | .letter c, t => sameLetter c t

def someLater : List Bool → List Bool
  | [] => []
  | b :: bs =>
      let later := someLater bs
      (b || later.headD false) :: later

/-- For every suffix of a text, whether `w` takes its first character and the rest has
a true verdict. -/
def takesFirst (w : Wildcard) : List Char → List Bool → List Bool
  | [], _ => [false]
  | t :: ts, row => (w.takes t && row.tail.headD false) :: takesFirst w ts row.tail

/-- The verdicts of `w :: ws` for every suffix of a text, given those of `ws`. -/
def extend (text : List Char) (w : Wildcard) (row : List Bool) : List Bool :=
  match w with
  | .anyRun => someLater row
  | _ => takesFirst w text row

/-- The verdicts of the empty pattern: only the empty suffix matches. -/
def atEnd : List Char → List Bool
  | [] => [true]
  | _ :: ts => false :: atEnd ts

def accepts (pattern : List Wildcard) (text : List Char) : Bool :=
  (pattern.foldr (extend text) (atEnd text)).headD false

def needsBackslash (c : Char) : Bool :=
  "()[]\x7b\x7d?*+-|^$\\.&~# \t\n\r\x0b\x0c".toList.contains c

def expression : Wildcard → List Char
  | .anyRun => ['.', '*']
  | .anyChar => ['.']
  | .letter c => if needsBackslash c then ['\\', c] else [c]

end Wildcard

def isLike (pattern text : String) : Bool :=
  Wildcard.accepts (pattern.toList.map Wildcard.ofChar) text.toList

def likeExpression (pattern : String) : String :=
  String.ofList ((pattern.toList.map Wildcard.ofChar).flatMap Wildcard.expression)

end TaskQuery.Text
