import TaskQuery.Json.Reader
import TaskQuery.Settings.Basic
import TaskQuery.Text.Blank
/-!
# Reading settings

Settings come as values by name and from environment variables whose names, in any
case, have `dartql_` in front. A value by name goes before the variable, and mappings
from both places are merged. All that is wrong is reported, setting by setting.
-/

namespace TaskQuery.Settings

inductive Name where
  | validFields
  | serverFilters
  | listValuedFilters
  | suggestionThreshold
  | logLevel
  deriving DecidableEq, Repr

namespace Name

def all : List Name :=
  [.validFields, .serverFilters, .listValuedFilters, .suggestionThreshold, .logLevel]

def key : Name → String
  | .validFields => "valid_fields"
  | .serverFilters => "server_filters"
  | .listValuedFilters => "list_valued_filters"
  | .suggestionThreshold => "suggestion_threshold"
  | .logLevel => "log_level"

def isStructured : Name → Bool
  | .validFields | .serverFilters | .listValuedFilters => true
  | .suggestionThreshold | .logLevel => false

end Name

inductive Issue where
  | notList
  | notMapping
  | notText
  | notInteger
  | notIntegerText
  | fractional
  | notFinite
  | negative
  | noFields
  | unknownOperator (op field : String)
  | unknownLevel
  deriving DecidableEq, Repr

def Issue.message : Issue → String
  | .notList => "Input should be a valid list"
  | .notMapping => "Input should be a valid dictionary"
  | .notText => "Input should be a valid string"
  | .notInteger => "Input should be a valid integer"
  | .notIntegerText =>
      "Input should be a valid integer, unable to parse string as an integer"
  | .fractional => "Input should be a valid integer, got a number with a fractional part"
  | .notFinite => "Input should be a finite number"
  | .negative => "Input should be greater than or equal to 0"
  | .noFields => "Value error, valid_fields must not be empty"
  | .unknownOperator op field =>
      "Value error, Unknown operator '" ++ op ++ "' for field '" ++ field ++ "'"
  | .unknownLevel => "Value error, log_level must be one of " ++ ", ".intercalate logLevels

/-- An issue with the path to the part at fault, the name of the setting first. -/
structure Problem where
  path : List String
  issue : Issue
  deriving DecidableEq, Repr

inductive Refusal where
  /-- An environment variable holds no JSON. -/
  | unreadable (setting : Name)
  /-- Some settings have values that they cannot have. -/
  | invalid (problems : List Problem)

def unreadableMessage (setting : Name) : String :=
  "error parsing value for field \"" ++ setting.key ++
    "\" from source \"EnvSettingsSource\""

abbrev Checked (α : Type) := Except (List Problem) α

def problem {α : Type} (path : List String) (issue : Issue) : Checked α :=
  .error [{ path, issue }]

def checkTexts (path : List String) (items : List (String × Value)) :
    Checked (List (String × String)) :=
  let texts := items.filterMap fun item =>
    match item.2 with
    | .text s => some (item.1, s)
    | _ => none
  let problems := items.filterMap fun item =>
    if item.2.isText then none else some { path := path ++ [item.1], issue := Issue.notText }
  if problems.isEmpty then .ok texts else .error problems

def checkTextList (path : List String) (value : Value) : Checked (List String) :=
  match value with
  | .list items => do
      let numbered := items.zipIdx.map fun (item, index) => (toString index, item)
      return (← checkTexts path numbered).map Prod.snd
  | _ => problem path .notList

/-- The names of fields: trimmed, in lower case, and at least one that is not blank. -/
def checkFields (path : List String) (value : Value) : Checked (List String) := do
  let names := (← checkTextList path value).map Text.strip
  let fields := (names.filter fun name => !name.isEmpty).map Text.lower
  if fields.isEmpty then problem path .noFields else return fields

def checkOperators (path : List String) (value : Value) :
    Checked (List (String × String)) :=
  match value with
  | .mapping entries => checkTexts path entries
  | _ => problem path .notMapping

def checkTable (path : List String) : List (String × Value) → Checked Server.FilterTable
  | [] => .ok []
  | (field, operators) :: rest =>
      match checkOperators (path ++ [field]) operators, checkTable path rest with
      | .ok read, .ok table => .ok ((field, read) :: table)
      | .error first, .error others => .error (first ++ others)
      | .error first, .ok _ => .error first
      | .ok _, .error others => .error others

def unknownOperator? (table : Server.FilterTable) : Option (String × String) :=
  table.findSome? fun (field, operators) =>
    (operators.find? fun entry => (Server.operatorNamed entry.1).toOption.isNone).map
      fun entry => (entry.1, field)

def checkFilters (path : List String) (value : Value) : Checked Server.FilterTable :=
  match value with
  | .mapping entries => do
      let table ← checkTable path entries
      match unknownOperator? table with
      | some (op, field) => problem path (.unknownOperator op field)
      | none => return table
  | _ => problem path .notMapping

/-- The digits of an integer text, where single underscores may stand between digits and
a point with zeros after them. -/
def integerDigits? (cs : List Char) : Option (List Char) :=
  let whole := cs.takeWhile (· != '.')
  let zeros := (cs.drop whole.length).drop 1
  if whole.all (fun c => c.isDigit || c == '_') && zeros.all (· == '0') then
    match Number.withoutUnderscores? ' ' whole with
    | some [] => none
    | digits => digits
  else
    none

def integerOfText? (text : String) : Option Int := do
  let (negative, cs) := Number.splitSign (Text.trimBy Text.isSpace text.toList)
  let size : Int := Number.ofDigits (← integerDigits? cs)
  return if negative then -size else size

def checkInteger (path : List String) (value : Value) : Checked Int :=
  match value with
  | .int n => .ok n
  | .bool b => .ok (if b then 1 else 0)
  | .float d =>
      match d.toInt? with
      | some n => .ok n
      | none => problem path (if d.isFinite then .fractional else .notFinite)
  | .text s =>
      match integerOfText? s with
      | some n => .ok n
      | none => problem path .notIntegerText
  | _ => problem path .notInteger

def checkThreshold (path : List String) (value : Value) : Checked Int := do
  let n ← checkInteger path value
  if n < 0 then problem path .negative else return n

def checkLevel (path : List String) (value : Value) : Checked String :=
  match value with
  | .text s =>
      let level := Text.upper s
      if logLevels.contains level then .ok level else problem path .unknownLevel
  | _ => problem path .notText

mutual

/-- A value laid over another: mappings are merged, anything else replaces what is
below. -/
def overlay (below : Value) : Value → Value
  | .mapping upper =>
      match below with
      | .mapping entries => .mapping (overlayEntries entries upper)
      | _ => .mapping upper
  | value => value

def overlayEntries (below : List (String × Value)) :
    List (String × Value) → List (String × Value)
  | [] => below
  | (key, value) :: rest =>
      let merged :=
        match Entries.get? below key with
        | some old => overlay old value
        | none => value
      overlayEntries (Entries.put below key merged) rest

end

def settingVariable (environment : List (String × String)) (setting : Name) : Option String :=
  (environment.reverse.find? fun entry =>
    Text.lower entry.1 == "dartql_" ++ setting.key).map Prod.snd

/-- The value of a setting in the environment. Null there is no value. -/
def fromEnvironment (environment : List (String × String)) (setting : Name) :
    Except Refusal (List (String × Value)) :=
  match settingVariable environment setting with
  | none => .ok []
  | some text =>
      if setting.isStructured then
        match Json.read (some Number.digitLimit) text with
        | .ok .null => .ok []
        | .ok value => .ok [(setting.key, value)]
        | .error _ => .error (.unreadable setting)
      else
        .ok [(setting.key, .text text)]

def checked {α : Type} (values : List (String × Value)) (name : Name)
    (check : List String → Value → Checked α) (standard : α) : Checked α :=
  match Entries.get? values name.key with
  | none => .ok standard
  | some value => check [name.key] value

def problemsOf {α : Type} : Checked α → List Problem
  | .ok _ => []
  | .error problems => problems

def check (values : List (String × Value)) : Checked Settings :=
  let fields := checked values .validFields checkFields standard.validFields
  let filters := checked values .serverFilters checkFilters standard.serverFilters
  let lists := checked values .listValuedFilters checkTextList standard.listValuedFilters
  let threshold :=
    checked values .suggestionThreshold checkThreshold standard.suggestionThreshold
  let level := checked values .logLevel checkLevel standard.logLevel
  match fields, filters, lists, threshold, level with
  | .ok validFields, .ok serverFilters, .ok listValuedFilters, .ok suggestionThreshold,
      .ok logLevel =>
      .ok { validFields, serverFilters, listValuedFilters, suggestionThreshold, logLevel }
  | _, _, _, _, _ =>
      .error (problemsOf fields ++ problemsOf filters ++ problemsOf lists ++
        problemsOf threshold ++ problemsOf level)

def read (given : List (String × Value)) (environment : List (String × String)) :
    Except Refusal Settings := do
  let found ← Name.all.mapM (fromEnvironment environment)
  match check (overlayEntries found.flatten given) with
  | .ok settings => return settings
  | .error problems => throw (.invalid problems)

end TaskQuery.Settings
