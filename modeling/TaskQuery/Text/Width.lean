import TaskQuery.Text.Case
import TaskQuery.Text.WidthTable
/-!
# Width of a text

The number of terminal columns that a text takes, and texts cut or padded to a number
of columns. A text falls into clusters, each drawn in one place: a character with the
marks after it, or several characters tied by joiners.
-/

namespace TaskQuery.Text

def charWidth (c : Char) : Nat :=
  let n := c.toNat
  if n < 0x20 then 0
  else if n < 0x7F then 1
  else if n < 0xA0 then 0
  else if inRanges zeroWidthRanges n then 0
  else if inRanges doubleWidthRanges n then 2
  else 1

def hasEmojiForm (c : Char) : Bool :=
  inRanges emojiFormRanges c.toNat

/-- The joiner, which draws the next character into the one before. -/
def joiner : Char := Char.ofNat 0x200D

def emojiSelector : Char := Char.ofNat 0xFE0F

/-- The columns of a text that follows `last`, the character seen last that takes a
column and has not been turned into its emoji form. -/
def widthAfter (last : Option Char) : List Char → Nat
  | [] => 0
  | c :: rest =>
      if c == joiner then
        match rest with
        | [] => 0
        | _ :: tail => widthAfter last tail
      else if c == emojiSelector then
        (if last.any hasEmojiForm then 1 else 0) + widthAfter none rest
      else
        charWidth c + widthAfter (if charWidth c = 0 then last else some c) rest

def width (cs : List Char) : Nat :=
  widthAfter none cs

/-- Characters that are drawn in one place, and the columns they take. -/
structure Cluster where
  chars : List Char
  width : Nat
  deriving DecidableEq, Repr

/-- Adds characters to the last of some clusters, which come in reverse order. -/
def extendCluster (found : List Cluster) (cs : List Char) (columns : Nat) : List Cluster :=
  match found with
  | [] => [{ chars := cs, width := columns }]
  | cluster :: earlier =>
      { chars := cluster.chars ++ cs, width := cluster.width + columns } :: earlier

def clustersAfter (found : List Cluster) (last : Option Char) : List Char → List Cluster
  | [] => found.reverse
  | c :: rest =>
      if found.isEmpty && (c == joiner || c == emojiSelector) then
        clustersAfter [{ chars := [c], width := 0 }] last rest
      else if c == joiner then
        match rest with
        | [] => (extendCluster found [c] 0).reverse
        | next :: tail => clustersAfter (extendCluster found [c, next] 0) last tail
      else if c == emojiSelector then
        if last.any hasEmojiForm then clustersAfter (extendCluster found [c] 1) none rest
        else clustersAfter (extendCluster found [c] 0) last rest
      else if charWidth c = 0 then
        clustersAfter (extendCluster found [c] 0) last rest
      else
        clustersAfter ({ chars := [c], width := charWidth c } :: found) (some c) rest

def clusters (cs : List Char) : List Cluster :=
  clustersAfter [] none cs

/-- The clusters that fit into some columns. A space fills half the place of the first
that does not. -/
def takeColumns (columns : Nat) : List Cluster → List Char
  | [] => []
  | cluster :: rest =>
      if columns = 0 then []
      else if cluster.width ≤ columns then
        cluster.chars ++ takeColumns (columns - cluster.width) rest
      else [' ']

def padRight (columns : Nat) (cs : List Char) : List Char :=
  cs ++ List.replicate (columns - width cs) ' '

def fitTo (columns : Nat) (cs : List Char) : List Char :=
  if width cs ≤ columns then padRight columns cs else takeColumns columns (clusters cs)

/-- A text with spaces on both sides up to `columns`, the odd one on the right. -/
def center (columns : Nat) (cs : List Char) : List Char :=
  let room := columns - width cs
  padRight columns (List.replicate (room / 2) ' ' ++ cs)

/-- Clusters put into lines of at most `columns`, after a line begun with the characters
`line` in reverse order, which take `used` columns. -/
def chopAfter (columns : Nat) (line : List Char) (used : Nat) : List Cluster → List (List Char)
  | [] => if used = 0 then [] else [line.reverse]
  | cluster :: rest =>
      if columns < used + cluster.width then
        line.reverse :: chopAfter columns cluster.chars.reverse cluster.width rest
      else
        chopAfter columns (cluster.chars.reverse ++ line) (used + cluster.width) rest

def chop (columns : Nat) (cs : List Char) : List (List Char) :=
  chopAfter columns [] 0 (clusters cs)

end TaskQuery.Text
