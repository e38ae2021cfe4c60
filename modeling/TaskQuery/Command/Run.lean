import TaskQuery.Command.Arguments
import TaskQuery.Command.Records
import TaskQuery.Console.ControlSequence
import TaskQuery.Console.Grid
import TaskQuery.Json.Writer
import TaskQuery.Selector
import TaskQuery.Settings.Reader
/-!
# Running the program

The program as a function of its arguments, its environment and the files it reads. A
run either is refused for its usage or ends with an exit code and the texts it printed.
-/

namespace TaskQuery.Command

open Query (evaluate)
open Selector Server

def version : String := "0.1.0"

/-- What stops a run without a message of its own. -/
inductive Crash where
  | settings
  | operator
  | markup (fault : Console.MarkupFault)
  | badPath
  | undecodable
  | longInteger
  deriving DecidableEq, Repr

def Crash.message : Crash → String
  | .settings => "An environment variable cannot be read"
  | .operator => "The settings name an unknown operator"
  | .markup .unopened => "A closing tag has nothing to close"
  | .markup .action => "The parameters of an action cannot be read"
  | .markup .share => "A share of a color is no number"
  | .badPath => "The path of the records file has a null character"
  | .undecodable => "The records file is not UTF-8 text"
  | .longInteger => "The records file has an integer of too many digits"

structure Ending where
  exitCode : Nat
  stdout : String := ""
  stderr : String := ""
  crash : Option Crash := none
  deriving DecidableEq, Repr

inductive Outcome where
  | usageError
  | finished (ending : Ending)
  deriving DecidableEq, Repr

def endingAfter (printed : String) (failed : Bool) : Outcome :=
  .finished { exitCode := if failed then 1 else 0, stdout := printed }

def crashed (crash : Crash) (printed : String) : Outcome :=
  .finished { exitCode := 1, stdout := printed, crash := some crash }

def failedWith (messages : List String) : Outcome :=
  let lines := messages.map fun message => Console.plainOutput message ++ "\n"
  .finished { exitCode := 1, stderr := String.join lines }

def printAll (columns : Nat) (printed : String) : List String → String × Option Console.MarkupFault
  | [] => (printed, none)
  | line :: rest =>
      match Console.render columns line with
      | .ok shown => printAll columns (printed ++ shown ++ "\n") rest
      | .error fault => (printed, some fault)

def endingAfterLines (columns : Nat) (printed : String) (lines : List String) (failed : Bool) :
    Outcome :=
  match printAll columns printed lines with
  | (all, none) => endingAfter all failed
  | (before, some fault) => crashed (.markup fault) before

def titled (title style : String) (messages : List String) : List String :=
  messages.map fun message =>
    "[" ++ style ++ "]" ++ title ++ ":[/" ++ style ++ "] " ++ message

def textList (texts : List String) : Value :=
  .list (texts.map .text)

def sortedTexts (texts : List String) : List String :=
  texts.mergeSort fun a b => a ≤ b

def parsedDocument (p : Parsed) : Value :=
  .mapping [("ast", p.tree.toValue), ("fields", textList (sortedTexts p.fields)),
    ("errors", textList (p.errors.map QueryError.message))]

def runParse (columns : Nat) (s : Settings) (query : String) (json : Bool) : Outcome :=
  let parsed := Selector.parse s query
  let errors := parsed.errors.map QueryError.message
  let failed := !errors.isEmpty
  if json then
    endingAfter (Json.write .lines (parsedDocument parsed) ++ "\n") failed
  else
    let fields := ", ".intercalate (sortedTexts parsed.fields)
    let heading := if parsed.fields.isEmpty then [] else ["Fields: " ++ fields]
    match printAll columns "" heading with
    | (before, some fault) => crashed (.markup fault) before
    | (printed, none) =>
        let tree := Json.write .readable parsed.tree.toValue
        endingAfterLines columns (printed ++ tree ++ "\n") (titled "error" "red" errors) failed

def compiledDocument (c : Compilation) : Value :=
  .mapping [("server_filter", .mapping c.serverFilter),
    ("requires_client_side", .bool c.requiresClient), ("warnings", textList c.warnings),
    ("errors", textList c.errors)]

def filterTable (columns : Nat) (filter : Entries String Value) : Except Console.MarkupFault String :=
  if filter.isEmpty then
    .ok ""
  else
    Console.table columns "API filters" ("Parameter", "Value")
      (filter.map fun entry => (entry.1, Json.write .line entry.2))

def compiledLines (c : Compilation) : List String :=
  (if c.requiresClient then ["[yellow]Client-side filtering required[/yellow]"] else []) ++
    titled "warning" "yellow" c.warnings ++ titled "error" "red" c.errors

def runCompile (columns : Nat) (s : Settings) (query : String) (json : Bool) : Outcome :=
  match Selector.compile s query with
  | .error _ => crashed .operator ""
  | .ok compiled =>
      let failed := !compiled.errors.isEmpty
      if json then
        endingAfter (Json.write .lines (compiledDocument compiled) ++ "\n") failed
      else
        match filterTable columns compiled.serverFilter with
        | .error fault => crashed (.markup fault) ""
        | .ok printed => endingAfterLines columns printed (compiledLines compiled) failed

def printMatches (tree : Query.Expr) (path : String)
    (file : Except FileError ByteArray) : Outcome :=
  match recordsOfFile file with
  | .ok records =>
      endingAfter (Json.write .lines (.list (records.filter (evaluate tree))) ++ "\n") false
  | .error .notText => crashed .undecodable ""
  | .error .longInteger => crashed .longInteger ""
  | .error .notList => failedWith ["Expected a JSON array of records in " ++ path]
  | .error (.unreadable e) =>
      failedWith ["Could not read records from " ++ path ++ ": " ++ e.message path]
  | .error (.notJson fault place) =>
      failedWith ["Could not read records from " ++ path ++ ": " ++
        Json.malformedMessage fault place]

/-- Selects records from a file. The file is read only for a query without errors. -/
def runFilter {m : Type → Type} [Monad m] (readFile : String → m (Except FileError ByteArray))
    (s : Settings) (query path : String) : m Outcome :=
  let parsed := Selector.parse s query
  if !parsed.errors.isEmpty then
    return failedWith (parsed.errors.map QueryError.message)
  else
    match s.capabilities with
    | .error _ => return crashed .operator ""
    | .ok capabilities =>
        let compiled := Server.compile capabilities parsed.tree
        if !compiled.errors.isEmpty then
          return failedWith compiled.errors
        else do
          let path := plainPath path
          if path.toList.contains (Char.ofNat 0) then
            return crashed .badPath ""
          else
            return printMatches parsed.tree path (← readFile path)

def runAction {m : Type → Type} [Monad m] (readFile : String → m (Except FileError ByteArray))
    (columns : Nat) (s : Settings) : Action → m Outcome
  | .parse query json => return runParse columns s query json
  | .compile query json => return runCompile columns s query json
  | .filter query path => runFilter readFile s query path

def givenSettings (options : ProgramOptions) : List (String × Value) :=
  match options.logLevel with
  | some level => if level.isEmpty then [] else [("log_level", .text level)]
  | none => []

/-- Runs the program on a console of some columns. The command is looked up first, then the
settings are read and then the arguments of the command. -/
def run {m : Type → Type} [Monad m] (readFile : String → m (Except FileError ByteArray))
    (columns : Nat) (environment : List (String × String)) (args : List String) : m Outcome :=
  match readProgramOptions? {} args with
  | none => return .usageError
  | some (options, rest) =>
      if options.version then
        return endingAfter ("DartQL version: " ++ version ++ "\n") false
      else
        match rest with
        | [] => return .usageError
        | command :: commandArgs =>
            if !commandNames.contains command then
              return .usageError
            else
              match Settings.read (givenSettings options) environment with
              | .error (.unreadable _) => return crashed .settings ""
              | .error (.invalid _) => return .usageError
              | .ok s =>
                  match readAction? command commandArgs with
                  | none => return .usageError
                  | some action => runAction readFile columns s action

end TaskQuery.Command
