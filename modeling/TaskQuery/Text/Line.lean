/-!
# Lines of a text

The characters that end a line, and texts cut into lines.
-/

namespace TaskQuery.Text

def plainLineEnds : List Char → List Char
  | [] => []
  | '\r' :: '\n' :: rest => '\n' :: plainLineEnds rest
  | '\r' :: rest => '\n' :: plainLineEnds rest
  | c :: rest => c :: plainLineEnds rest

/-- Whether a character ends a line: the control characters for lines, pages and
sections and the separators of lines and paragraphs. -/
def endsLine (c : Char) : Bool :=
  let n := c.toNat
  (0x0A ≤ n && n ≤ 0x0D) || (0x1C ≤ n && n ≤ 0x1E) || n == 0x85 || n == 0x2028 || n == 0x2029

/-- The parts of a text between the characters of class `p`. There is always one. -/
def partsBetween (p : Char → Bool) (cs : List Char) : List (List Char) :=
  cs.foldr
    (fun c parts =>
      if p c then [] :: parts
      else match parts with
        | part :: others => (c :: part) :: others
        | [] => [[c]])
    [[]]

end TaskQuery.Text
