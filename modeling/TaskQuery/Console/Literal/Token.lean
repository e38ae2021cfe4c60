import TaskQuery.Number.Literal
import TaskQuery.Text.Line
/-!
# Tokens of literals

The numbers, texts, words and marks that literals are made of. Blank characters, comments
after `#` and, inside brackets, line ends may stand between them.
-/

namespace TaskQuery.Console

inductive LiteralToken where
  | number (imaginary : Bool)
  | text (bytes : Bool)
  | constant
  | setName
  | plus
  | minus
  | opening
  | closing
  | openingBrace
  | closingBrace
  | comma
  | colon
  | lineEnd
  deriving DecidableEq, Repr

namespace LiteralToken

/-! ## Numbers -/

def isGrouped (cs : List Char) : Bool :=
  (Text.partsBetween (· == '_') cs).all fun group => !group.isEmpty

def digitsOf (p : Char → Bool) (cs : List Char) : List Char :=
  cs.takeWhile fun c => c == '_' || p c

def baseDigit? (mark : Char) : Option (Char → Bool) :=
  match mark.toLower with
  | 'x' => some fun c => (Text.hexValue? c).isSome
  | 'o' => some fun c => '0' ≤ c && c ≤ '7'
  | 'b' => some fun c => c == '0' || c == '1'
  | _ => none

/-- What follows the digits of an integer in another base. A low line may come first. -/
def afterBase? (isDigit : Char → Bool) (cs : List Char) : Option (List Char) :=
  let ds := digitsOf isDigit cs
  if isGrouped (if ds.head? == some '_' then ds.tail else ds) then some (cs.drop ds.length)
  else none

def fractionOf (cs : List Char) : Option (List Char) × List Char :=
  match cs with
  | '.' :: rest =>
      let ds := digitsOf Char.isDigit rest
      (some ds, rest.drop ds.length)
  | _ => (none, cs)

def afterExponent? (cs : List Char) : Option (List Char) :=
  match cs with
  | mark :: rest =>
      if mark == 'e' || mark == 'E' then
        let (_, unsigned) := Number.splitSign rest
        let ds := digitsOf Char.isDigit unsigned
        if isGrouped ds then some (unsigned.drop ds.length) else none
      else
        some cs
  | [] => some []

/-- Whether digits write an integer: zeros may not stand in front of other digits, and
there is a limit of digits. -/
def isInteger (ds : List Char) : Bool :=
  if ds.head? == some '0' then ds.all fun c => c == '0' || c == '_'
  else (ds.filter Char.isDigit).length ≤ Number.digitLimit

def readDecimal? (cs : List Char) : Option (LiteralToken × List Char) := do
  let whole := digitsOf Char.isDigit cs
  let (fraction, rest) := fractionOf (cs.drop whole.length)
  let after ← afterExponent? rest
  let isImaginary := after.head? == some 'j' || after.head? == some 'J'
  let isFloat := fraction.isSome || after.length < rest.length
  if (whole.isEmpty || isGrouped whole) && (fraction.all fun ds => ds.isEmpty || isGrouped ds) &&
      (isFloat || isImaginary || isInteger whole) then
    some (.number isImaginary, if isImaginary then after.tail else after)
  else
    none

def continuesWord (c : Char) : Bool :=
  c.isAlphanum || c == '_' || 0x80 ≤ c.toNat

def readNumber? (cs : List Char) : Option (LiteralToken × List Char) := do
  let (token, rest) ←
    match cs with
    | '0' :: mark :: ds =>
        match baseDigit? mark with
        | some isDigit => (afterBase? isDigit ds).map fun rest => (.number false, rest)
        | none => readDecimal? cs
    | _ => readDecimal? cs
  if rest.head?.any continuesWord then none else some (token, rest)

/-! ## Texts -/

/-- How a text is written: whether it stands for bytes and whether its backslashes stand
for themselves. -/
structure TextForm where
  bytes : Bool
  raw : Bool

def textForm? (letters : List Char) : Option TextForm :=
  match String.ofList (letters.map Char.toLower) with
  | "" => some { bytes := false, raw := false }
  | "u" => some { bytes := false, raw := false }
  | "r" => some { bytes := false, raw := true }
  | "b" => some { bytes := true, raw := false }
  | "br" => some { bytes := true, raw := true }
  | "rb" => some { bytes := true, raw := true }
  | _ => none

/-- The characters up to the closing quotes, and those after them. A backslash keeps the
character after it. -/
def upToQuotes? (quotes : List Char) (manyLines : Bool) :
    List Char → Option (List Char × List Char)
  | [] => none
  | c :: rest =>
      if quotes.isPrefixOf (c :: rest) then
        some ([], (c :: rest).drop quotes.length)
      else if c == '\\' then
        match rest with
        | [] => none
        | d :: after =>
            (upToQuotes? quotes manyLines after).map fun (body, tail) => (c :: d :: body, tail)
      else if c == '\n' && !manyLines then
        none
      else
        (upToQuotes? quotes manyLines rest).map fun (body, tail) => (c :: body, tail)

def startsWithHex (count limit : Nat) (cs : List Char) : Bool :=
  match (cs.take count).mapM Text.hexValue? with
  | some ds => ds.length == count && ds.foldl (fun n d => 16 * n + d) 0 ≤ limit
  | none => false

def startsWithName (cs : List Char) : Bool :=
  match cs with
  | '{' :: rest =>
      let name := rest.takeWhile (· != '}')
      !name.isEmpty && name.length < rest.length
  | _ => false

def completesEscape (bytes : Bool) (letter : Char) (cs : List Char) : Bool :=
  if letter == 'x' then startsWithHex 2 0xFF cs
  else if bytes then true
  else if letter == 'u' then startsWithHex 4 0xFFFF cs
  else if letter == 'U' then startsWithHex 8 0x10FFFF cs
  else if letter == 'N' then startsWithName cs
  else true

def hasWholeEscapes (bytes : Bool) : List Char → Bool
  | [] => true
  | c :: rest =>
      if c == '\\' then
        match rest with
        | [] => true
        | letter :: after => completesEscape bytes letter after && hasWholeEscapes bytes after
      else
        hasWholeEscapes bytes rest

/-- A text at the start of some characters, after the letters of its form, with what
follows it. Three quotes let it go over many lines. -/
def readText? (form : TextForm) (cs : List Char) : Option (LiteralToken × List Char) := do
  let quotes := cs.take 1
  let three := quotes ++ quotes ++ quotes
  let manyLines := three.isPrefixOf cs
  let quotes := if manyLines then three else quotes
  let (body, rest) ← upToQuotes? quotes manyLines (cs.drop quotes.length)
  if (form.raw || hasWholeEscapes form.bytes body) &&
      (!form.bytes || body.all fun c => c.toNat < 0x80) then
    some (.text form.bytes, rest)
  else
    none

/-! ## All tokens -/

def ofWord? (word : List Char) : Option LiteralToken :=
  match String.ofList word with
  | "True" => some .constant
  | "False" => some .constant
  | "None" => some .constant
  | "set" => some .setName
  | _ => none

def ofMark? (c : Char) : Option LiteralToken :=
  match c with
  | '+' => some .plus
  | '-' => some .minus
  | '(' => some .opening
  | ')' => some .closing
  | '{' => some .openingBrace
  | '}' => some .closingBrace
  | ',' => some .comma
  | ':' => some .colon
  | _ => none

def startsNumber (cs : List Char) : Bool :=
  match cs with
  | '.' :: rest => rest.head?.any Char.isDigit
  | _ => cs.head?.any Char.isDigit

def startsQuoted (cs : List Char) : Bool :=
  cs.head? == some '\'' || cs.head? == some '"'

def read? (cs : List Char) : Option (LiteralToken × List Char) :=
  let word := cs.takeWhile continuesWord
  let after := cs.drop word.length
  if startsNumber cs then readNumber? cs
  else if startsQuoted after then (textForm? word).bind fun form => readText? form after
  else if !word.isEmpty then (ofWord? word).map fun token => (token, after)
  else if "...".toList.isPrefixOf cs then some (.constant, cs.drop 3)
  else
    match cs with
    | c :: rest => (ofMark? c).map fun token => (token, rest)
    | [] => none

def depthAfter (token : LiteralToken) (depth : Nat) : Nat :=
  match token with
  | .opening | .openingBrace => depth + 1
  | .closing | .closingBrace => depth - 1
  | _ => depth

def depthLimit : Nat := 200

/-- The form feed. It is blank and takes back the blanks before it. -/
def formFeed : Char := Char.ofNat 0x0C

def isGap (c : Char) : Bool :=
  c == ' ' || c == '\t' || c == formFeed

def startsIndented (cs : List Char) : Bool :=
  let blanks := cs.takeWhile isGap
  (blanks.getLast?.any (· != formFeed)) &&
    (cs.drop blanks.length).head?.any fun c => c != '\n' && c != '#'

def readAll? (depth : Nat) (cs : List Char) : Option (List LiteralToken) :=
  match cs with
  | [] => some []
  | c :: rest =>
      if isGap c then readAll? depth rest
      else if c == '#' then readAll? depth (rest.dropWhile (· != '\n'))
      else if c == '\\' then
        match rest with
        | '\n' :: next :: after => readAll? depth (next :: after)
        | _ => none
      else if c == '\n' then
        if 0 < depth then readAll? depth rest
        else if startsIndented rest then none
        else (readAll? 0 rest).map (.lineEnd :: ·)
      else
        match read? (c :: rest) with
        | none => none
        | some (token, after) =>
            if depthLimit < token.depthAfter depth then none
            else if _h : after.length ≤ rest.length then
              (readAll? (token.depthAfter depth) after).map (token :: ·)
            else none
  termination_by cs.length
  decreasing_by
    · exact Nat.lt_succ_self rest.length
    · exact Nat.lt_succ_of_le (List.dropWhile_suffix _).length_le
    · simp only [List.length_cons]
      omega
    · exact Nat.lt_succ_self rest.length
    · exact Nat.lt_succ_self rest.length
    · simp only [List.length_cons]
      omega

end LiteralToken

end TaskQuery.Console
