import TaskQuery.Console.Literal
import TaskQuery.Text.Case
import TaskQuery.Text.WordTable
/-!
# Actions

What a click on a text does. A tag gives it as the name of a handler, with a literal in
parentheses as its arguments, or as a literal alone.
-/

namespace TaskQuery.Console

def isHandlerChar (c : Char) : Bool :=
  c == '.' || Text.inRanges Text.nameRanges c.toNat

/-- Whether the parameters of an action can be read. A handler may have no arguments. -/
def isAction (written : List Char) : Bool :=
  let parameters := Text.trimBy Text.isBlank written
  match parameters.dropWhile isHandlerChar with
  | [] => true
  | arguments =>
      let inParentheses :=
        arguments.head? == some '(' && arguments.getLast? == some ')' && !arguments.contains '\n'
      isLiteral (if inParentheses then arguments else parameters)

end TaskQuery.Console
