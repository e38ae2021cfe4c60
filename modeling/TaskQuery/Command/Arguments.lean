/-!
# Command-line arguments

What the arguments of the program ask for. Options of the program stand in front of the
command, those of a command anywhere after it, and `--` ends the options.
-/

namespace TaskQuery.Command

inductive Action where
  | parse (query : String) (json : Bool)
  | compile (query : String) (json : Bool)
  | filter (query : String) (path : String)
  deriving DecidableEq, Repr

def commandNames : List String :=
  ["parse", "compile", "filter"]

structure ProgramOptions where
  version : Bool := false
  logLevel : Option String := none
  deriving DecidableEq, Repr

/-- Whether an argument is an option. A lone dash is not. -/
def isOption (arg : String) : Bool :=
  match arg.toList with
  | '-' :: _ :: _ => true
  | _ => false

/-- Reads the options in front of the command. The rest starts with the command; there is
none if an option is unknown or lacks its value. -/
def readProgramOptions? (options : ProgramOptions) :
    List String → Option (ProgramOptions × List String)
  | [] => some (options, [])
  | arg :: rest =>
      if arg = "--" then
        some (options, rest)
      else if !isOption arg then
        some (options, arg :: rest)
      else if arg = "--version" then
        readProgramOptions? { options with version := true } rest
      else if arg = "--log-level" then
        match rest with
        | [] => none
        | level :: others => readProgramOptions? { options with logLevel := some level } others
      else if "--log-level=".toList.isPrefixOf arg.toList then
        let level := String.ofList (arg.toList.drop "--log-level=".length)
        readProgramOptions? { options with logLevel := some level } rest
      else if arg.toList.drop 1 |>.all (· == 'v') then
        readProgramOptions? { options with version := true } rest
      else
        none

/-- The arguments of a command: what stands by itself, and whether `--json` is there. -/
structure CommandArguments where
  positional : List String := []
  json : Bool := false
  deriving DecidableEq, Repr

def readCommandArguments? (takesJson : Bool) (arguments : CommandArguments) :
    List String → Option CommandArguments
  | [] => some arguments
  | arg :: rest =>
      if arg = "--" then
        some { arguments with positional := arguments.positional ++ rest }
      else if !isOption arg then
        readCommandArguments? takesJson
          { arguments with positional := arguments.positional ++ [arg] } rest
      else if takesJson ∧ arg = "--json" then
        readCommandArguments? takesJson { arguments with json := true } rest
      else
        none

def readAction? (command : String) (args : List String) : Option Action := do
  let arguments ← readCommandArguments? (command != "filter") {} args
  match command, arguments.positional with
  | "parse", [query] => some (.parse query arguments.json)
  | "compile", [query] => some (.compile query arguments.json)
  | "filter", [query, path] => some (.filter query path)
  | _, _ => none

end TaskQuery.Command
