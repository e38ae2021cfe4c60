import TaskQuery.Json.Reader
import TaskQuery.Text.Line
import TaskQuery.Text.Quoted
/-!
# Files of records

Records are the items of a JSON list, or of the list under `tasks` in a JSON mapping.
-/

namespace TaskQuery.Command

/-- Why the operating system refuses a file: its number and its text. -/
structure FileError where
  number : Nat
  reason : String
  deriving DecidableEq, Repr

def FileError.missing : FileError :=
  { number := 2, reason := "No such file or directory" }

def FileError.directory : FileError :=
  { number := 21, reason := "Is a directory" }

def FileError.notDirectory : FileError :=
  { number := 20, reason := "Not a directory" }

def FileError.nameTooLong : FileError :=
  { number := 36, reason := "File name too long" }

def FileError.forbidden : FileError :=
  { number := 13, reason := "Permission denied" }

def FileError.unreadable : FileError :=
  { number := 5, reason := "Input/output error" }

def FileError.message (e : FileError) (path : String) : String :=
  s!"[Errno {e.number}] {e.reason}: " ++ Text.quoted path

def pathParts (cs : List Char) : List (List Char) :=
  Text.partsBetween (· == '/') cs

/-- A path in its plain form: no empty parts, none that stays in place, and a dot for the
place itself. Two slashes in front are kept, more are one. -/
def plainPath (path : String) : String :=
  let cs := path.toList
  let root := cs.takeWhile (· == '/')
  let parts := (pathParts cs).filter fun part => !part.isEmpty && part != ['.']
  let front := if root.length == 2 then root else root.take 1
  let plain := front ++ ['/'].intercalate parts
  if plain.isEmpty then "." else String.ofList plain

inductive RecordsError where
  | unreadable (e : FileError)
  | notText
  | notJson (fault : Json.Fault) (place : Json.Place)
  | longInteger
  | notList

def recordsOf? (document : Value) : Option (List Value) :=
  match document with
  | .list items => some items
  | .mapping entries => (Entries.get? entries "tasks").bind Value.items?
  | _ => none

def recordsOfText (text : String) : Except RecordsError (List Value) :=
  match Json.read (some Number.digitLimit) (String.ofList (Text.plainLineEnds text.toList)) with
  | .error .longInteger => .error .longInteger
  | .error (.malformed fault place) => .error (.notJson fault place)
  | .ok document =>
      match recordsOf? document with
      | some records => .ok records
      | none => .error .notList

def recordsOfFile (file : Except FileError ByteArray) : Except RecordsError (List Value) :=
  match file with
  | .error e => .error (.unreadable e)
  | .ok bytes =>
      match String.fromUTF8? bytes with
      | some text => recordsOfText text
      | none => .error .notText

end TaskQuery.Command
