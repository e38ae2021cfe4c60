import TaskQuery.Console.Literal.Token
import TaskQuery.Text.Blank
/-!
# Literals

Values that are written out: numbers, also complex ones, texts, bytes, `True`, `False`,
`None` and `...`, and tuples, sets and mappings of them. The elements of a set and the keys
of a mapping hold no set and no mapping.
-/

namespace TaskQuery.Console

/-- What has to be known of a value to put it into a larger one. -/
inductive LiteralShape where
  /-- A number without a sign. -/
  | number (imaginary : Bool)
  /-- A number after a sign. -/
  | signed (imaginary : Bool)
  /-- Any other value that can be a key. -/
  | simple
  /-- A value that is a set or a mapping, or a tuple that holds one. -/
  | collection
  deriving DecidableEq, Repr

namespace LiteralShape

def canBeKey (s : LiteralShape) : Bool :=
  s != .collection

def isReal (s : LiteralShape) : Bool :=
  s == .number false || s == .signed false

def signed? : LiteralShape → Option LiteralShape
  | .number imaginary => some (.signed imaginary)
  | _ => none

end LiteralShape

/-- One of the values between commas, which a colon may tie to another value. -/
structure LiteralItem where
  shape : LiteralShape
  paired : Bool

structure LiteralItems where
  items : List LiteralItem
  /-- Whether a comma ends them. -/
  openEnded : Bool

namespace LiteralItems

/-- The shape of values in parentheses, or without any: one value without a comma stands
for itself. -/
def inParentheses? (found : LiteralItems) : Option LiteralShape :=
  if found.items.any fun item => item.paired then
    none
  else
    match found.items, found.openEnded with
    | [item], false => some item.shape
    | items, _ => some (if items.all fun item => item.shape.canBeKey then .simple else .collection)

/-- The shape of values in braces: a set, or a mapping if they come in pairs. -/
def inBraces? (found : LiteralItems) : Option LiteralShape :=
  let items := found.items
  if (items.all fun item => item.shape.canBeKey) &&
      (items.all (fun item => item.paired) || items.all fun item => !item.paired) then
    some .collection
  else
    none

end LiteralItems

def endsItems (tokens : List LiteralToken) : Bool :=
  match tokens with
  | [] | .closing :: _ | .closingBrace :: _ => true
  | _ => false

def LiteralToken.isText : LiteralToken → Bool
  | .text _ => true
  | _ => false

mutual

/-- The shape of a value without a sign, with the tokens after it. Texts side by side are
one. `fuel` bounds the depth of reading here and below. -/
def readOperand? (fuel : Nat) (tokens : List LiteralToken) :
    Option (LiteralShape × List LiteralToken) :=
  match fuel, tokens with
  | _, .number imaginary :: rest => some (.number imaginary, rest)
  | _, .constant :: rest => some (.simple, rest)
  | _, .text bytes :: rest =>
      let more := rest.takeWhile LiteralToken.isText
      if more.all (· == .text bytes) then some (.simple, rest.drop more.length) else none
  | _, .setName :: .opening :: .closing :: rest => some (.collection, rest)
  | _, .opening :: .closing :: rest => some (.simple, rest)
  | _, .openingBrace :: .closingBrace :: rest => some (.collection, rest)
  | fuel + 1, .opening :: inside =>
      match readItems? fuel inside with
      | some (found, .closing :: rest) => found.inParentheses?.map fun shape => (shape, rest)
      | _ => none
  | fuel + 1, .openingBrace :: inside =>
      match readItems? fuel inside with
      | some (found, .closingBrace :: rest) => found.inBraces?.map fun shape => (shape, rest)
      | _ => none
  | _, _ => none

/-- The shape of a value, with the tokens after it. A real and an imaginary number with a
sign between them are one value. -/
def readValue? (fuel : Nat) (tokens : List LiteralToken) :
    Option (LiteralShape × List LiteralToken) :=
  match fuel with
  | 0 => none
  | fuel + 1 =>
      let first :=
        match tokens with
        | .plus :: rest | .minus :: rest =>
            (readOperand? fuel rest).bind fun (shape, after) =>
              shape.signed?.map fun shape => (shape, after)
        | _ => readOperand? fuel tokens
      match first with
      | some (left, .plus :: rest) | some (left, .minus :: rest) =>
          match readOperand? fuel rest with
          | some (.number true, after) => if left.isReal then some (.simple, after) else none
          | _ => none
      | _ => first

def readItems? (fuel : Nat) (tokens : List LiteralToken) :
    Option (LiteralItems × List LiteralToken) :=
  match fuel with
  | 0 => none
  | fuel + 1 => do
      let (shape, rest) ← readValue? fuel tokens
      let (paired, rest) ←
        match rest with
        | .colon :: value => (readValue? fuel value).map fun (_, after) => (true, after)
        | _ => some (false, rest)
      let item : LiteralItem := { shape, paired }
      match rest with
      | .comma :: more =>
          if endsItems more then
            some ({ items := [item], openEnded := true }, more)
          else
            (readItems? fuel more).map fun (found, after) =>
              ({ found with items := item :: found.items }, after)
      | _ => some ({ items := [item], openEnded := false }, rest)

end

def isLiteral (cs : List Char) : Bool :=
  let text := Text.plainLineEnds cs
  match LiteralToken.readAll? 0 text with
  | none => false
  | some tokens =>
      let tokens := Text.trimBy (· == .lineEnd) tokens
      match readItems? (3 * tokens.length + 3) tokens with
      | some (found, []) => found.inParentheses?.isSome && !text.contains (Char.ofNat 0)
      | _ => false

end TaskQuery.Console
