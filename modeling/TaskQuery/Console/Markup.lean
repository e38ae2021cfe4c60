import TaskQuery.Console.Action
import TaskQuery.Console.Shortcode
import TaskQuery.Console.TagStyle
import TaskQuery.Console.Wrap
/-!
# Console markup

Text for the console in which tags in brackets, such as a color, are style and are not
shown, and the names of emojis between colons show the emoji. A backslash in front of a
bracket shows the bracket. A closing tag has to have an open tag to close.
-/

namespace TaskQuery.Console

inductive MarkupFault where
  /-- A closing tag has no tag to close. -/
  | unopened
  /-- The parameters of an action cannot be read. -/
  | action
  /-- A share of a color is no number. -/
  | share
  deriving DecidableEq, Repr

/-- A piece of markup: characters to show, or what stands between the brackets of a tag. -/
inductive Piece where
  | plain (cs : List Char)
  | tag (body : List Char)
  deriving DecidableEq, Repr

def startsTag (c : Char) : Bool :=
  ('a' ≤ c && c ≤ 'z') || c == '#' || c == '/' || c == '@'

/-- The characters up to the next closing bracket, with those after it. There must not
be an opening bracket in between. -/
def upToBracket? : List Char → Option (List Char × List Char)
  | [] => none
  | c :: rest =>
      if c == ']' then some ([], rest)
      else if c == '[' then none
      else (upToBracket? rest).map fun (body, after) => (c :: body, after)

def readTag? : List Char → Option (List Char × List Char)
  | '[' :: c :: rest =>
      if startsTag c then (upToBracket? rest).map fun (body, after) => (c :: body, after)
      else none
  | _ => none

theorem upToBracket?_length {cs body after : List Char}
    (h : upToBracket? cs = some (body, after)) : after.length < cs.length := by
  induction cs generalizing body with
  | nil => simp [upToBracket?] at h
  | cons c rest ih =>
      rw [upToBracket?] at h
      split at h
      · obtain ⟨-, rfl⟩ := Prod.mk.inj (Option.some.inj h)
        simp
      · split at h
        · simp at h
        · obtain ⟨⟨b, a⟩, hb, he⟩ := Option.map_eq_some_iff.1 h
          obtain ⟨-, rfl⟩ := Prod.mk.inj he
          have := ih hb
          simp only [List.length_cons]
          omega

theorem readTag?_length {cs body after : List Char}
    (h : readTag? cs = some (body, after)) : after.length < cs.length := by
  unfold readTag? at h
  split at h
  · split at h
    · obtain ⟨⟨b, a⟩, hb, he⟩ := Option.map_eq_some_iff.1 h
      obtain ⟨-, rfl⟩ := Prod.mk.inj he
      have := upToBracket?_length hb
      simp only [List.length_cons]
      omega
    · simp at h
  · simp at h

def plainPiece (cs : List Char) : List Piece :=
  if cs.isEmpty then [] else [.plain cs]

/-- The pieces of a text that follows the characters `seen`, which come in reverse order.
Backslashes in front of a tag count in pairs, each of which shows one; one left over turns
the tag into text. -/
def piecesAfter (seen : List Char) : List Char → List Piece
  | [] => plainPiece seen.reverse
  | c :: rest =>
      let slashes := ((c :: rest).takeWhile (· == '\\')).length
      match h : readTag? ((c :: rest).drop slashes) with
      | some (body, after) =>
          have : after.length < rest.length + 1 :=
            Nat.lt_of_lt_of_le (readTag?_length h)
              (List.drop_sublist slashes (c :: rest)).length_le
          let before := plainPiece seen.reverse ++ plainPiece (List.replicate (slashes / 2) '\\')
          let shown := if slashes % 2 = 0 then .tag body else .plain ('[' :: body ++ [']'])
          before ++ shown :: piecesAfter [] after
      | none => piecesAfter (c :: seen) rest
  termination_by cs => cs.length
  decreasing_by
    · assumption
    · exact Nat.lt_succ_self rest.length

def pieces (cs : List Char) : List Piece :=
  piecesAfter [] cs

def withoutEscapes : List Char → List Char
  | [] => []
  | c :: rest =>
      if c == '\\' && rest.head? == some '[' then withoutEscapes rest
      else c :: withoutEscapes rest

def isSilent (c : Char) : Bool :=
  let n := c.toNat
  n == 0x07 || n == 0x08 || n == 0x0B || n == 0x0C || n == 0x0D

def shownChars (cs : List Char) : List Char :=
  (replaceCodes (withoutEscapes cs)).filter fun c => !isSilent c

structure OpenTag where
  name : String
  parameters : Option (List Char)
  first : Nat

namespace OpenTag

def isAction (tag : OpenTag) : Bool :=
  tag.name.toList.head? == some '@'

def stretch (tag : OpenTag) (last : Nat) : Stretch :=
  let style :=
    match tag.parameters with
    | some parameters => tag.name.toList ++ ' ' :: parameters
    | none => tag.name.toList
  { first := tag.first, last, showable := !isUnshowable style }

def close (tag : OpenTag) (last : Nat) : Except MarkupFault Stretch :=
  if tag.isAction then
    if tag.parameters.all fun written => written.isEmpty || Console.isAction written then
      .ok { first := tag.first, last, showable := true }
    else
      .error .action
  else
    .ok (tag.stretch last)

end OpenTag

/-- A text with the tags that are open at its end, the innermost first. -/
structure TaggedText where
  text : StyledText
  opened : List OpenTag

namespace TaggedText

/-- The tag that a closing tag closes: the innermost of its style, or the innermost of all
if it has no name. -/
def closing? (t : TaggedText) (name : List Char) : Except MarkupFault (Option OpenTag) :=
  match Text.trimBy Text.isBlank name with
  | [] => .ok t.opened.head?
  | trimmed =>
      match canonicalStyle? trimmed with
      | none => .error .share
      | some style => .ok (t.opened.find? fun tag => tag.name == style)

def openTag (t : TaggedText) (name : List Char) (parameters : Option (List Char)) :
    Except MarkupFault TaggedText :=
  match canonicalStyle? name with
  | none => .error .share
  | some style =>
      let tag : OpenTag := { name := style, parameters, first := t.text.chars.length }
      .ok { t with opened := tag :: t.opened }

def closeTag (t : TaggedText) (name : List Char) : Except MarkupFault TaggedText := do
  match ← t.closing? name with
  | none => .error .unopened
  | some tag =>
      let stretch ← tag.close t.text.chars.length
      let opened := t.opened.eraseP fun other => other.name == tag.name
      return { text := { t.text with stretches := stretch :: t.text.stretches }, opened }

/-- Adds a piece of markup to a text. The parameters of a tag follow an equals sign. -/
def add (t : TaggedText) : Piece → Except MarkupFault TaggedText
  | .plain cs => .ok { t with text := { t.text with chars := t.text.chars ++ shownChars cs } }
  | .tag body =>
      match body.takeWhile (· != '=') with
      | '/' :: name => t.closeTag name
      | name =>
          t.openTag name (if name.length < body.length then some (body.drop (name.length + 1))
            else none)

def finish (t : TaggedText) : StyledText :=
  let last := t.text.chars.length
  { t.text with stretches := t.opened.map (fun tag => tag.stretch last) ++ t.text.stretches }

end TaggedText

def readMarkup (markup : String) : Except MarkupFault StyledText :=
  let empty : TaggedText := { text := { chars := [], stretches := [] }, opened := [] }
  ((pieces markup.toList).foldlM TaggedText.add empty).map TaggedText.finish

/-- The columns of a console of which nothing else is known. -/
def standardColumns : Nat := 1000

/-- The text that a line with markup prints on a console, without the line end. It may go over
several lines of the console. -/
def render (columns : Nat) (markup : String) : Except MarkupFault String := do
  let lines := (← readMarkup markup).wrap columns .fold
  if lines.all fun line => line.isShowable then
    return String.ofList (['\n'].intercalate (lines.map fun line => line.chars))
  else
    .error .share

end TaskQuery.Console
