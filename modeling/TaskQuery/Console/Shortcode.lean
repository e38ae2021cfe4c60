import TaskQuery.Console.Shortcode.AToC
import TaskQuery.Console.Shortcode.DToF
import TaskQuery.Console.Shortcode.GToL
import TaskQuery.Console.Shortcode.MToO
import TaskQuery.Console.Shortcode.PToS
import TaskQuery.Console.Shortcode.Signs
import TaskQuery.Console.Shortcode.TToZ
import TaskQuery.Text.Blank
import TaskQuery.Text.Case
/-!
# Shortcodes of emojis

The name of an emoji between colons stands for the emoji. `-text` or `-emoji` after the
name picks the form in which it is drawn. Names that are not known stay as they are.
-/

namespace TaskQuery.Console

def shortcodes : List (List (String × String)) :=
  [shortcodesAToC, shortcodesDToF, shortcodesGToL, shortcodesMToO, shortcodesPToS,
    shortcodesTToZ, shortcodesSigns]

def emojiNamed? (name : String) : Option String :=
  shortcodes.findSome? fun table => table.lookup name

structure CodeEnding where
  text : List Char
  selector : List Char

def codeEndings : List CodeEnding :=
  [{ text := "-emoji:".toList, selector := [Char.ofNat 0xFE0F] },
    { text := "-text:".toList, selector := [Char.ofNat 0xFE0E] },
    { text := ":".toList, selector := [] }]

/-- The name at the start of a text that goes on to the first ending of a shortcode,
with that ending. Blank characters do not stand in names. -/
def readCode? : List Char → Option (List Char × CodeEnding)
  | [] => none
  | c :: rest =>
      match codeEndings.find? fun ending => ending.text.isPrefixOf (c :: rest) with
      | some ending => some ([], ending)
      | none =>
          if Text.isBlank c then none
          else (readCode? rest).map fun (name, ending) => (c :: name, ending)

def showCode (name : List Char) (ending : CodeEnding) : List Char :=
  match emojiNamed? (Text.lower (String.ofList name)) with
  | some emoji => emoji.toList ++ ending.selector
  | none => ':' :: name ++ ending.text

def replaceCodes : List Char → List Char
  | [] => []
  | c :: rest =>
      if c == ':' then
        match readCode? rest with
        | some (name, ending) =>
            showCode name ending ++ replaceCodes (rest.drop (name.length + ending.text.length))
        | none => c :: replaceCodes rest
      else
        c :: replaceCodes rest
  termination_by cs => cs.length
  decreasing_by
    all_goals
      simp only [List.length_drop, List.length_cons]
      omega

end TaskQuery.Console
