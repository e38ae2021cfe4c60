/-!
# Control sequences

The sequences that set colors and move the cursor of a terminal. They are left out of
what goes to anything else.
-/

namespace TaskQuery.Console

def escape : Char := Char.ofNat 0x1B

/-- The number of characters that complete a control sequence after `escape`: a bracket,
digits, semicolons and question marks, and a letter. -/
def sequenceTail? : List Char → Option Nat
  | '[' :: rest =>
      let arguments := rest.takeWhile fun c => c.isDigit || c == ';' || c == '?'
      match rest.drop arguments.length with
      | c :: _ => if c.isAlpha then some (arguments.length + 2) else none
      | [] => none
  | _ => none

def withoutSequences : List Char → List Char
  | [] => []
  | c :: rest =>
      if c == escape then
        match sequenceTail? rest with
        | some count => withoutSequences (rest.drop count)
        | none => c :: withoutSequences rest
      else
        c :: withoutSequences rest
  termination_by cs => cs.length
  decreasing_by
    all_goals
      simp only [List.length_drop, List.length_cons]
      omega

/-- The text that reaches a file or a pipe. -/
def plainOutput (s : String) : String :=
  String.ofList (withoutSequences s.toList)

end TaskQuery.Console
