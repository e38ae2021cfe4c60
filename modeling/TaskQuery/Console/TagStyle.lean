import TaskQuery.Console.Color
import TaskQuery.Text.Blank
/-!
# Names of styles

The style that a markup tag names. A closing tag closes the last open one of the same
style, and two names are the same style if they have one canonical form: attributes in
a fixed order under their full names, then the color, the background and the link.
-/

namespace TaskQuery.Console

def attributeOrder : List String :=
  ["bold", "dim", "italic", "underline", "blink", "blink2", "reverse", "conceal", "strike",
    "underline2", "frame", "encircle", "overline"]

def attributeAliases : List (String × String) :=
  [("b", "bold"), ("d", "dim"), ("i", "italic"), ("u", "underline"), ("r", "reverse"),
    ("c", "conceal"), ("s", "strike"), ("uu", "underline2"), ("o", "overline")]

def attribute? (word : String) : Option String :=
  if attributeOrder.contains word then some word else attributeAliases.lookup word

structure TagStyle where
  attributes : List (String × Bool) := []
  color : Option String := none
  background : Option String := none
  link : Option String := none

namespace TagStyle

def setTrait (style : TagStyle) (trait : String) (on : Bool) : TagStyle :=
  { style with attributes := (trait, on) :: style.attributes }

def addWords (style : TagStyle) : List String → Except StyleFault TagStyle
  | [] => .ok style
  | first :: rest =>
      let word := Text.lower first
      if word = "on" then
        match rest with
        | [] => .error .unknown
        | second :: others =>
            match readColor second with
            | .ok color => addWords { style with background := some color } others
            | .error fault => .error fault
      else if word = "not" then
        match rest with
        | [] => .error .unknown
        | second :: others =>
            match attribute? second with
            | some trait => addWords (style.setTrait trait false) others
            | none => .error .unknown
      else if word = "link" then
        match rest with
        | [] => .error .unknown
        | target :: others => addWords { style with link := some target } others
      else
        match attribute? word with
        | some trait => addWords (style.setTrait trait true) rest
        | none =>
            match readColor word with
            | .ok color => addWords { style with color := some color } rest
            | .error fault => .error fault

def wordsOf (style : TagStyle) (trait : String) : List String :=
  match style.attributes.lookup trait with
  | some true => [trait]
  | some false => ["not " ++ trait]
  | none => []

def words (style : TagStyle) : List String :=
  attributeOrder.flatMap style.wordsOf ++ style.color.toList ++
    (match style.background with
      | some color => ["on", color]
      | none => []) ++
    (match style.link with
      | some target => ["link", target]
      | none => [])

end TagStyle

def splitWords (cs : List Char) : List String :=
  ((Text.partsBetween Text.isBlank cs).filter fun part => !part.isEmpty).map String.ofList

def readStyle (name : List Char) : Except StyleFault TagStyle :=
  TagStyle.addWords {} (splitWords name)

/-- The canonical name of a style. A name that is no style stands for itself, trimmed and
in lower case; there is none if a share of a color is no number. -/
def canonicalStyle? (name : List Char) : Option String :=
  match readStyle name with
  | .ok style => some (if style.words.isEmpty then "none" else " ".intercalate style.words)
  | .error .unknown => some (Text.lower (String.ofList (Text.trimBy Text.isBlank name)))
  | .error .share => none

def isUnshowable (name : List Char) : Bool :=
  match readStyle name with
  | .error .share => true
  | _ => false

end TaskQuery.Console
