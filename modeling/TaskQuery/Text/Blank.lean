/-!
# Blank characters

Two nested classes of blank characters and the trimming that goes with each.
`Text.isSpace` is the White_Space property; numbers are trimmed by it.
`Text.isBlank` adds the four information separators and is what stands between
the lexemes of a query.
-/

namespace TaskQuery.Text

def isSpace (c : Char) : Bool :=
  let n := c.toNat
  (0x09 ≤ n && n ≤ 0x0D) || n == 0x20 || n == 0x85 || n == 0xA0 || n == 0x1680 ||
    (0x2000 ≤ n && n ≤ 0x200A) || n == 0x2028 || n == 0x2029 || n == 0x202F ||
    n == 0x205F || n == 0x3000

def isBlank (c : Char) : Bool :=
  isSpace c || (0x1C ≤ c.toNat && c.toNat ≤ 0x1F)

def trimBy {α : Type} (p : α → Bool) (xs : List α) : List α :=
  ((xs.dropWhile p).reverse.dropWhile p).reverse

def strip (s : String) : String :=
  String.ofList (trimBy isBlank s.toList)

theorem isBlank_of_isSpace {c : Char} (h : isSpace c = true) : isBlank c = true := by
  simp [isBlank, h]

@[simp] theorem trimBy_nil {α : Type} (p : α → Bool) : trimBy p [] = [] := rfl

end TaskQuery.Text
