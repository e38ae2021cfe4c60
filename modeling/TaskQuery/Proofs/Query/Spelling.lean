import Mathlib.Data.List.Forall2
import TaskQuery.Proofs.Query.Boundary
import TaskQuery.Proofs.Query.Canonical
import TaskQuery.Proofs.Query.Diagnostics
/-!
# Words in other letters

A word keeps its kind in any letter case, and a lexeme that is no string literal stays one
when letters change their case. A part of such a lexeme that does not end with the point
of a number is a lexeme too, so where a token is the longest lexeme of a text none goes on
from it, whatever the case of the letters on both sides.
-/

namespace TaskQuery.Query

def TokenKind.IsWord (kind : TokenKind) : Prop :=
  kind ∈ TokenKind.identifier :: TokenKind.keywords.map Prod.snd

/-- Another way to write a token of a kind: with letters in another case if it is a word. -/
def Respells (kind : TokenKind) (slice other : List Char) : Prop :=
  slice = other ∨ kind.IsWord ∧ slice.map Char.toUpper = other.map Char.toUpper

instance (kind : TokenKind) : Decidable kind.IsWord :=
  inferInstanceAs (Decidable (_ ∈ _))

instance (kind : TokenKind) (slice other : List Char) : Decidable (Respells kind slice other) :=
  inferInstanceAs (Decidable (_ ∨ _))

/-- A token that is another one but for its place, and for the case of letters if it is a
word. -/
structure Token.Respelled (t u : Token) : Prop where
  kind : t.kind = u.kind
  length : t.length = u.length
  text : Respells t.kind t.text.toList u.text.toList

/-! ## Letters -/

section Letters

variable {a b c : Char} {word other : List Char}

theorem toUpper_of_not_ascii (h : ¬c.toNat < 0x80) : c.toUpper = c := by
  have hrange : ¬(c ≥ 'a' ∧ c ≤ 'z') := by
    rintro ⟨-, hle⟩
    have hbound : c.toNat ≤ 0x7A := hle
    omega
  unfold Char.toUpper
  exact dif_neg hrange

/-- A fact about a character and its upper case, from the list of ASCII characters. -/
theorem toUpper_induction {α : Type} {f : Char → α}
    (h : ∀ n < 0x80, f (Char.ofNat n).toUpper = f (Char.ofNat n)) (c : Char) :
    f c.toUpper = f c := by
  by_cases hc : c.toNat < 0x80
  · exact ascii_induction (p := fun c => f c.toUpper = f c) h hc
  · rw [toUpper_of_not_ascii hc]

theorem startsWord_toUpper (c : Char) : Lexeme.startsWord c.toUpper = Lexeme.startsWord c :=
  toUpper_induction (by decide) c

theorem continuesWord_toUpper (c : Char) :
    Lexeme.continuesWord c.toUpper = Lexeme.continuesWord c :=
  toUpper_induction (by decide) c

theorem toLower_toUpper (c : Char) : c.toUpper.toLower = c.toLower :=
  toUpper_induction (by decide) c

theorem startsWord_congr (h : a.toUpper = b.toUpper) :
    Lexeme.startsWord a = Lexeme.startsWord b := by
  rw [← startsWord_toUpper a, h, startsWord_toUpper]

theorem continuesWord_congr (h : a.toUpper = b.toUpper) :
    Lexeme.continuesWord a = Lexeme.continuesWord b := by
  rw [← continuesWord_toUpper a, h, continuesWord_toUpper]

theorem toUpper_of_not_letter (h : Lexeme.startsWord c = false) : c.toUpper = c := by
  by_cases hc : c.toNat < 0x80
  · have all : ∀ n < 0x80, Lexeme.startsWord (Char.ofNat n) = false →
        (Char.ofNat n).toUpper = Char.ofNat n := by decide
    exact ascii_induction (p := fun c => Lexeme.startsWord c = false → c.toUpper = c) all hc h
  · exact toUpper_of_not_ascii hc

theorem eq_of_toUpper_eq (ha : Lexeme.startsWord a = false) (h : a.toUpper = b.toUpper) :
    a = b := by
  have hb : Lexeme.startsWord b = false := by rw [← startsWord_congr h, ha]
  rw [← toUpper_of_not_letter ha, h, toUpper_of_not_letter hb]

theorem eq_of_map_toUpper_eq (hword : ∀ d ∈ word, Lexeme.startsWord d = false)
    (h : word.map Char.toUpper = other.map Char.toUpper) : word = other := by
  induction word generalizing other with
  | nil => exact (List.map_eq_nil_iff.1 h.symm).symm
  | cons d rest ih =>
      cases other with
      | nil => cases h
      | cons e others =>
          obtain ⟨hd, hrest⟩ := List.cons.inj h
          rw [eq_of_toUpper_eq (hword d List.mem_cons_self) hd,
            ih (fun x hx => hword x (List.mem_cons_of_mem d hx)) hrest]

theorem forall_continuesWord_congr (h : word.map Char.toUpper = other.map Char.toUpper)
    (hword : ∀ d ∈ word, Lexeme.continuesWord d = true) :
    ∀ e ∈ other, Lexeme.continuesWord e = true := by
  intro e he
  have hmem : e.toUpper ∈ word.map Char.toUpper := h ▸ List.mem_map_of_mem he
  obtain ⟨d, hd, heq⟩ := List.mem_map.1 hmem
  rw [← continuesWord_congr heq]
  exact hword d hd

end Letters

/-! ## Lexemes -/

namespace Lexeme

variable {kind : TokenKind} {c d : Char} {w word other text more : List Char}

theorem isWord_wordKind (word : List Char) : (wordKind word).IsWord :=
  wordKind_mem word

theorem wordKind_congr (h : word.map Char.toUpper = other.map Char.toUpper) :
    wordKind word = wordKind other := by
  unfold wordKind
  rw [h]

theorem ne_string_of_isWord (h : kind.IsWord) : kind ≠ .string := by
  rintro rfl
  exact absurd h (by decide)

theorem startsWord_of_isNumeralChar (h : Number.isNumeralChar c = true) :
    startsWord c = false := by
  rcases Bool.or_eq_true_iff.1 h with hdigit | hpoint
  · rw [Bool.eq_false_iff]
    intro hstart
    rw [isDigit_of_startsWord hstart] at hdigit
    exact Bool.false_ne_true hdigit
  · obtain rfl := eq_of_beq hpoint
    decide

theorem Written.recase (h : Written kind text word) (hk : kind ≠ .string)
    (hcase : word.map Char.toUpper = other.map Char.toUpper) : Written kind other other := by
  cases h with
  | string => exact absurd rfl hk
  | number hnum =>
      have hletters : ∀ d ∈ word, startsWord d = false :=
        fun d hd => startsWord_of_isNumeralChar (hnum.chars d hd)
      rw [← eq_of_map_toUpper_eq hletters hcase]
      exact .number hnum
  | sign hsign =>
      have hall : ∀ sign ∈ signs, sign.1.all (fun d => !startsWord d) = true := by decide
      have hletters : ∀ d ∈ word, startsWord d = false := by
        intro d hd
        simpa using List.all_eq_true.1 (hall _ hsign) d hd
      rw [← eq_of_map_toUpper_eq hletters hcase]
      exact .sign hsign
  | @word c rest hstart hrest =>
      cases other with
      | nil => cases hcase
      | cons e others =>
          obtain ⟨hhead, htail⟩ := List.cons.inj hcase
          have hstart' : startsWord e = true := by rw [← startsWord_congr hhead, hstart]
          rw [wordKind_congr hcase]
          exact .word hstart' (forall_continuesWord_congr htail hrest)

/-- A part of a number that does not end with the point is a number. -/
theorem numeral_initial (h : Number.Numeral (word ++ d :: more)) (hd : d ≠ '.') :
    Number.Numeral (word ++ [d]) := by
  generalize hcs : word ++ d :: more = cs at h
  rw [List.append_cons] at hcs
  cases h with
  | integer hne hdigits =>
      subst hcs
      exact .integer (by simp) fun e he => hdigits e (List.mem_append_left more he)
  | @decimal whole fraction hne hne' hdigits hdigits' =>
      rcases List.append_eq_append_iff.1 hcs with ⟨a, hwhole, -⟩ | ⟨a, hpart, hrest⟩
      · -- The part ends before the point.
        subst hwhole
        exact .integer (by simp) fun e he => hdigits e (List.mem_append_left a he)
      · cases a with
        | nil =>
            rw [List.append_nil] at hpart
            rw [hpart]
            exact .integer hne hdigits
        | cons point digits =>
            obtain ⟨rfl, rfl⟩ := List.cons.inj hrest
            rw [hpart]
            refine .decimal hne ?_ hdigits fun e he => hdigits' e (List.mem_append_left more he)
            rintro rfl
            have hlast := congrArg List.getLast? hpart
            simp only [List.getLast?_append, List.getLast?_singleton, Option.some_or] at hlast
            exact hd (Option.some.inj hlast)

/-- A part of a lexeme is a lexeme too, unless it is cut out of a string literal or ends
with the point of a number. -/
theorem Written.initial (h : Written kind text (c :: w ++ d :: more)) (hk : kind ≠ .string)
    (hd : d ≠ '.') :
    ∃ kind' text', kind' ≠ .string ∧ Written kind' text' (c :: w ++ [d]) := by
  generalize hcs : c :: w ++ d :: more = cs at h
  cases h with
  | string => exact absurd rfl hk
  | number hnum =>
      subst hcs
      exact ⟨_, _, TokenKind.noConfusion, .number (numeral_initial hnum hd)⟩
  | sign hsign =>
      have hall : ∀ sign ∈ signs, sign.1.length ≤ 2 := by decide
      have hlength := hall _ hsign
      rw [← hcs] at hlength
      simp only [List.length_append, List.length_cons] at hlength
      obtain rfl : more = [] := List.length_eq_zero_iff.1 (by omega)
      subst hcs
      exact ⟨kind, _, hk, .sign hsign⟩
  | @word e rest hstart hrest =>
      obtain ⟨rfl, rfl⟩ := List.cons.inj hcs
      refine ⟨_, _, ne_string_of_isWord (isWord_wordKind _), .word hstart ?_⟩
      intro e he
      have hpart : e ∈ w ++ [d] ++ more := List.mem_append_left more he
      rw [← List.append_cons] at hpart
      exact hrest e hpart

theorem Written.head_ne_point (h : Written kind text (c :: w)) : c ≠ '.' := by
  rintro rfl
  generalize hcs : '.' :: w = cs at h
  cases h with
  | string hquote =>
      obtain ⟨rfl, -⟩ := List.cons.inj hcs
      exact absurd hquote (by decide)
  | number hnum =>
      subst hcs
      exact absurd (isDigit_of_numeral hnum) (by decide)
  | sign hsign =>
      have hall : ∀ sign ∈ signs, sign.1.head? ≠ some '.' := by decide
      exact hall _ hsign (by rw [← hcs]; rfl)
  | word hstart =>
      obtain ⟨rfl, -⟩ := List.cons.inj hcs
      exact absurd hstart (by decide)

end Lexeme

/-! ## Tokens -/

section Tokens

open Lexeme

variable {kind : TokenKind} {s slice other text rest : List Char} {t u : Token} {c d : Char}

theorem Respells.map_toUpper (h : Respells kind slice other) :
    slice.map Char.toUpper = other.map Char.toUpper := by
  rcases h with rfl | ⟨-, hcase⟩
  · rfl
  · exact hcase

theorem Respells.length_eq (h : Respells kind slice other) : slice.length = other.length := by
  have hlength := congrArg List.length h.map_toUpper
  rwa [List.length_map, List.length_map] at hlength

/-- A lexeme that is written in another way is a lexeme of its kind and stands for the same,
but for the case of letters. -/
theorem Respells.written (h : Respells kind slice other) (hw : Written kind text slice) :
    ∃ text', Written kind text' other ∧ Respells kind text text' := by
  rcases h with rfl | ⟨hword, hcase⟩
  · exact ⟨text, hw, Or.inl rfl⟩
  · have hk := ne_string_of_isWord hword
    rw [hw.text_of_ne hk]
    exact ⟨other, hw.recase hk hcase, Or.inr ⟨hword, hcase⟩⟩

theorem Token.Fits.endsBefore (ht : t.Fits s) (hnext : s[t.position + t.length]? = some c)
    (hpoint : c ≠ '.') (hspelled : Respells t.kind (t.slice s) other)
    (hcase : c.toUpper = d.toUpper) (rest : List Char) : EndsBefore other (d :: rest) := by
  obtain ⟨text, hwritten, -⟩ := hspelled.written ht.written
  by_cases hk : t.kind = .string
  · exact endsBefore_of_string hwritten hk _
  intro e he kind' text' more hlonger
  obtain rfl : d = e := by simpa using he
  obtain ⟨o, w, rfl⟩ := List.exists_cons_of_ne_nil hwritten.ne_nil
  have hk' : kind' ≠ .string := mt hlonger.string_iff.1 (mt hwritten.string_iff.2 hk)
  have hpoint' : d ≠ '.' := by
    rintro rfl
    exact hpoint (eq_of_toUpper_eq (by decide) hcase.symm).symm
  -- The token with one more character is a lexeme of the text, and the token is the longest.
  obtain ⟨kind'', text'', hk'', hone⟩ := hlonger.initial hk' hpoint'
  have hmap : (o :: w ++ [d]).map Char.toUpper = (t.slice s ++ [c]).map Char.toUpper := by
    rw [List.map_append, List.map_append, hspelled.map_toUpper, List.map_singleton,
      List.map_singleton, hcase]
  have hslice : t.slice s ++ [c] = (s.drop t.position).take (t.length + 1) := by
    rw [List.take_add_one, List.getElem?_drop, hnext]
    rfl
  have hlongest := ht.longest _ _ _ (hone.recase hk'' hmap)
    (hslice ▸ List.take_prefix (t.length + 1) _)
  have hlength : (t.slice s).length = t.length := by
    have hinside := ht.inside
    rw [Token.slice, List.length_take, List.length_drop]
    omega
  rw [List.length_append, hlength, List.length_singleton] at hlongest
  omega

theorem lower_of_respells (h : slice.map Char.toUpper = other.map Char.toUpper)
    (hs : ∀ d ∈ slice, continuesWord d = true) :
    Text.lower (String.ofList slice) = Text.lower (String.ofList other) := by
  have ho := forall_continuesWord_congr h hs
  have hlower : ∀ cs : List Char, cs.map Char.toLower = (cs.map Char.toUpper).map Char.toLower := by
    intro cs
    rw [List.map_map]
    apply List.map_congr_left
    intro d _
    exact (toLower_toUpper d).symm
  apply String.toList_inj.1
  rw [toList_lower fun d hd => toNat_lt_of_continuesWord (hs d hd),
    toList_lower fun d hd => toNat_lt_of_continuesWord (ho d hd), hlower slice, h, ← hlower]

theorem continuesWord_of_identifier (h : Written .identifier text slice) :
    ∀ d ∈ text, continuesWord d = true := by
  generalize hk : TokenKind.identifier = kind at h
  cases h with
  | string => cases hk
  | number => cases hk
  | sign hsign => exact absurd (by simp [← hk]) (kind_not_mem_of_sign hsign)
  | @word c rest hstart hrest =>
      intro d hd
      rcases List.mem_cons.1 hd with rfl | hd
      · exact continuesWord_iff.2 (Or.inl hstart)
      · exact hrest d hd

theorem Token.Respelled.alike (h : t.Respelled u) (hw : Written t.kind t.text.toList slice) :
    t.Alike u := by
  refine ⟨h.kind, ?_, ?_⟩
  · unfold Literal.ofToken
    rw [← h.kind]
    rcases h.text with heq | ⟨hword, -⟩
    · rw [String.toList_inj.1 heq]
    · cases hk : t.kind with
      | string => exact absurd (hk ▸ hword) (by decide)
      | number => exact absurd (hk ▸ hword) (by decide)
      | _ => rfl
  · intro hk
    rw [hk] at hw
    have hlower := lower_of_respells h.text.map_toUpper (continuesWord_of_identifier hw)
    rwa [String.ofList_toList, String.ofList_toList] at hlower

end Tokens

end TaskQuery.Query
