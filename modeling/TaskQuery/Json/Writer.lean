import TaskQuery.Number.Shortest
import TaskQuery.Text.Quoted
import TaskQuery.Value
/-!
# Writing JSON

Values as JSON texts, on one line or one item a line, with or without characters beyond
ASCII. Doubles that are no numbers are written as the words for them.
-/

namespace TaskQuery.Json

structure Style where
  /-- The spaces of one level of indentation, if every item has a line of its own. -/
  indent : Option Nat
  /-- Whether only ASCII characters are written. -/
  ascii : Bool

def Style.line : Style := { indent := none, ascii := true }

def Style.lines : Style := { indent := some 2, ascii := true }

def Style.readable : Style := { indent := some 2, ascii := false }

def unitEscape (n : Nat) : List Char :=
  '\\' :: 'u' :: Text.hexDigits 4 n

def charText (ascii : Bool) (c : Char) : List Char :=
  let n := c.toNat
  if c == '"' || c == '\\' then ['\\', c]
  else if c == '\n' then ['\\', 'n']
  else if c == '\r' then ['\\', 'r']
  else if c == '\t' then ['\\', 't']
  else if n = 0x08 then ['\\', 'b']
  else if n = 0x0C then ['\\', 'f']
  else if n < 0x20 then unitEscape n
  else if !ascii || n < 0x7F then [c]
  else if n < 0x10000 then unitEscape n
  else unitEscape (0xD800 + (n - 0x10000) / 0x400) ++ unitEscape (0xDC00 + (n - 0x10000) % 0x400)

def stringText (ascii : Bool) (s : String) : List Char :=
  '"' :: s.toList.flatMap (charText ascii) ++ ['"']

def lineBreak (style : Style) (depth : Nat) : List Char :=
  match style.indent with
  | none => []
  | some spaces => '\n' :: List.replicate (spaces * depth) ' '

def separator (style : Style) (depth : Nat) : List Char :=
  match style.indent with
  | none => [',', ' ']
  | some _ => ',' :: lineBreak style depth

mutual

def valueText (style : Style) (depth : Nat) : Value → List Char
  | .null => "null".toList
  | .bool b => (if b then "true" else "false").toList
  | .int n => (Text.ofInt n).toList
  | .float d => d.toText.toList
  | .text s => stringText style.ascii s
  | .list [] => ['[', ']']
  | .list (item :: items) =>
      '[' :: lineBreak style (depth + 1) ++ valueText style (depth + 1) item ++
        itemsText style (depth + 1) items ++ lineBreak style depth ++ [']']
  | .mapping [] => ['{', '}']
  | .mapping ((key, value) :: entries) =>
      '{' :: lineBreak style (depth + 1) ++ stringText style.ascii key ++ [':', ' '] ++
        valueText style (depth + 1) value ++ entriesText style (depth + 1) entries ++
        lineBreak style depth ++ ['}']

def itemsText (style : Style) (depth : Nat) : List Value → List Char
  | [] => []
  | item :: items =>
      separator style depth ++ valueText style depth item ++ itemsText style depth items

def entriesText (style : Style) (depth : Nat) : List (String × Value) → List Char
  | [] => []
  | (key, value) :: entries =>
      separator style depth ++ stringText style.ascii key ++ [':', ' '] ++
        valueText style depth value ++ entriesText style depth entries

end

def write (style : Style) (value : Value) : String :=
  String.ofList (valueText style 0 value)

end TaskQuery.Json
