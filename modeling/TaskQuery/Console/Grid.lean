import TaskQuery.Console.Markup
import TaskQuery.Text.Line
/-!
# Tables on the console

A table of two columns with a title over it and a heavy box around its heads. Cells are
markup. A column is as wide as its widest cell as long as the console holds the table.
-/

namespace TaskQuery.Console

/-! ## Lines of a cell -/

def padding : Nat := 2

/-- Runs of characters padded or cut to `room` columns, of which `used` are taken. -/
def cutRuns (room used : Nat) : List (List Char) → List Char
  | [] => []
  | run :: rest =>
      if used + Text.width run < room then run ++ cutRuns room (used + Text.width run) rest
      else Text.fitTo (room - used) run

def runsWidth (runs : List (List Char)) : Nat :=
  (runs.map Text.width).foldr (· + ·) 0

def fitRuns (room : Nat) (runs : List (List Char)) : List Char :=
  let taken := runsWidth runs
  if taken ≤ room then runs.flatten ++ List.replicate (room - taken) ' '
  else cutRuns room 0 runs

def cellLine (room : Nat) (line : StyledText) : List Char :=
  let inner := room - padding
  let padded := line.withChars (Text.padRight inner line.chars)
  fitRuns room [[' '], fitRuns inner padded.runs, [' ']]

def cellLines (room : Nat) (cell : StyledText) : Except MarkupFault (List (List Char)) :=
  let lines := cell.wrap (room - padding) .ellipsis
  if lines.all fun line => line.isShowable then .ok (lines.map (cellLine room))
  else .error .share

/-! ## Columns -/

def widest (cs : List Char) : Nat :=
  ((Text.partsBetween Text.endsLine cs).map Text.width).foldl max 0

def columnWidth (room : Nat) (cells : List StyledText) : Nat :=
  min room ((cells.map fun cell => widest cell.chars).foldl max 0 + padding)

/-- Half of a number, of two numbers as near the even one. -/
def halfToEven (n : Nat) : Nat :=
  if n % 4 = 3 then n / 2 + 1 else n / 2

/-- The widths of two columns made to fit into `room`. The wider one gives way until both
are equal, and then both do. -/
def shareRoom (room first second : Nat) : Nat × Nat :=
  let least := min first second
  if first + second ≤ room then
    (first, second)
  else if 2 * least ≤ room then
    if first < second then (first, room - first) else (room - second, second)
  else
    let share := least - halfToEven (2 * least - room)
    (share, room - share)

/-! ## The box -/

structure Rule where
  left : Char
  fill : Char
  middle : Char
  right : Char

def Rule.top : Rule := ⟨'┏', '━', '┳', '┓'⟩

def Rule.head : Rule := ⟨'┡', '━', '╇', '┩'⟩

def Rule.bottom : Rule := ⟨'└', '─', '┴', '┘'⟩

def Rule.line (r : Rule) (widths : Nat × Nat) : List Char :=
  r.left :: List.replicate widths.1 r.fill ++
    r.middle :: List.replicate widths.2 r.fill ++ [r.right]

/-- A row of two cells between bars. The shorter one ends with blank lines. -/
def rowLines (bar : Char) (widths : Nat × Nat) (row : StyledText × StyledText) :
    Except MarkupFault (List (List Char)) := do
  let first ← cellLines widths.1 row.1
  let second ← cellLines widths.2 row.2
  let line (i : Nat) : List Char :=
    bar :: first.getD i (List.replicate widths.1 ' ') ++
      bar :: second.getD i (List.replicate widths.2 ' ') ++ [bar]
  return (List.range (max first.length second.length)).map line

def barColumns : Nat := 3

def table (columns : Nat) (title : String) (heads : String × String) (rows : List (String × String)) :
    Except MarkupFault String := do
  let firsts ← (heads.1 :: rows.map Prod.fst).mapM readMarkup
  let seconds ← (heads.2 :: rows.map Prod.snd).mapM readMarkup
  let room := columns - barColumns
  let widths := shareRoom room (columnWidth room firsts) (columnWidth room seconds)
  let title := Text.center (widths.1 + widths.2 + barColumns) (← readMarkup title).chars
  let cells := firsts.zip seconds
  let headLines ← (cells.take 1).mapM (rowLines '┃' widths)
  let bodyLines ← (cells.drop 1).mapM (rowLines '│' widths)
  let lines :=
    [title, Rule.top.line widths] ++ headLines.flatten ++ [Rule.head.line widths] ++
      bodyLines.flatten ++ [Rule.bottom.line widths]
  return String.ofList (lines.flatMap fun line => line ++ ['\n'])

end TaskQuery.Console
