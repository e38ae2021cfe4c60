import Mathlib.Data.List.TakeWhile
import TaskQuery.Json.Reader
/-!
# What the reader of JSON leaves

Each reader takes characters from the front of a text and leaves the rest. Besides the faults
that are told with their place there is one other failure, an integer of too many digits, and
where it occurs these digits stand in the text.
-/

namespace TaskQuery.Json

variable {α β : Type} {limit : Option Nat} {cs rest : List Char}
  {x : Except Failure (α × List Char)}

/-! ## Results -/

/-- More than `limit` digits stand next to each other in a text. -/
def LongRun (limit : Nat) (cs : List Char) : Prop :=
  ∃ digits, digits <:+: cs ∧ (∀ d ∈ digits, d.isDigit = true) ∧ limit < digits.length

theorem LongRun.mono {n : Nat} (h : LongRun n rest) (hrest : rest <:+ cs) : LongRun n cs := by
  obtain ⟨digits, hinside, hdigits, hlong⟩ := h
  exact ⟨digits, hinside.trans hrest.isInfix, hdigits, hlong⟩

/-- A result of reading from the front of a text: what is left is an end of the text, and an
integer of too many digits stands in it. -/
def Stays (limit : Option Nat) (cs : List Char) : Except Failure (α × List Char) → Prop
  | .ok (_, rest) => rest <:+ cs
  | .error .longInteger => ∃ n, limit = some n ∧ LongRun n cs
  | .error (.fault _ _) => True

namespace Stays

theorem mono (h : Stays limit rest x) (hrest : rest <:+ cs) : Stays limit cs x := by
  match x, h with
  | .ok (_, after), h => exact List.IsSuffix.trans h hrest
  | .error .longInteger, ⟨n, hn, hrun⟩ => exact ⟨n, hn, hrun.mono hrest⟩
  | .error (.fault _ _), _ => exact trivial

/-- Two readings, the second from where the first one stopped. -/
theorem bind {f : α × List Char → Except Failure (β × List Char)} (h : Stays limit cs x)
    (hf : ∀ a rest, rest <:+ cs → Stays limit rest (f (a, rest))) : Stays limit cs (x >>= f) := by
  match x, h with
  | .ok (a, rest), h => exact (hf a rest h).mono h
  | .error .longInteger, h => exact h
  | .error (.fault _ _), _ => exact trivial

theorem ok (a : α) (rest : List Char) : Stays limit rest (.ok (a, rest)) :=
  List.suffix_refl rest

theorem failAt (fault : Fault) (place : List Char) :
    Stays limit cs (Json.failAt fault place : Except Failure (α × List Char)) :=
  trivial

end Stays

theorem skipBlanks_suffix (cs : List Char) : skipBlanks cs <:+ cs :=
  List.dropWhile_suffix _

theorem skipBlanks_tail_suffix {c : Char} {tail : List Char} (h : skipBlanks cs = c :: tail) :
    tail <:+ cs :=
  (List.suffix_cons c tail).trans (h ▸ skipBlanks_suffix cs)

/-! ## Strings and keys -/

/-- An escape fails only with a fault. -/
theorem readUnicode_ne_longInteger (cs : List Char) : readUnicode cs ≠ .error .longInteger := by
  unfold readUnicode
  dsimp only
  repeat' split
  all_goals simp

theorem stays_readString (opening : Nat) (cs : List Char) :
    Stays limit cs (readString opening cs) := by
  fun_induction readString opening cs with
  | case1 => exact trivial
  | case2 => exact List.suffix_cons _ _
  | case3 => exact trivial
  | case4 tail _ ih =>
      cases hescape : readUnicode tail with
      | error failure =>
          cases failure with
          | fault => exact trivial
          | longInteger => exact absurd hescape (readUnicode_ne_longInteger tail)
      | ok escape =>
          have hdrop : tail.drop escape.2 <:+ '\\' :: 'u' :: tail :=
            (List.drop_suffix _ _).trans ⟨['\\', 'u'], rfl⟩
          refine Stays.mono (Stays.bind (ih escape.2) fun content after _ => ?_) hdrop
          exact .ok _ after
  | case5 mark tail _ decoded _ _ ih =>
      refine Stays.mono (Stays.bind ih fun content after _ => ?_) ⟨['\\', mark], rfl⟩
      exact .ok _ after
  | case6 => exact trivial
  | case7 => exact trivial
  | case8 c tail _ _ _ ih =>
      refine Stays.mono (Stays.bind ih fun content after _ => ?_) (List.suffix_cons c tail)
      exact .ok _ after

theorem stays_readKey (cs : List Char) : Stays limit cs (readKey cs) := by
  unfold readKey
  split
  · rename_i rest
    refine ((stays_readString _ rest).bind fun content after _ => ?_).mono (List.suffix_cons _ rest)
    dsimp only
    split
    · rename_i tail hcolon
      exact (skipBlanks_suffix tail).trans (skipBlanks_tail_suffix hcolon)
    · exact .failAt _ _
  · exact .failAt _ _

/-! ## Numbers -/

theorem readWhole?_some {whole : List Char} (h : readWhole? cs = some (whole, rest)) :
    whole ++ rest = cs ∧ ∀ d ∈ whole, d.isDigit = true := by
  unfold readWhole? at h
  split at h
  · cases h
  · rename_i c tail
    split at h
    · rename_i hzero
      obtain ⟨rfl, rfl⟩ : [c] = whole ∧ tail = rest := by simpa using h
      exact ⟨rfl, by simp [hzero]⟩
    · split at h
      · rename_i hdigit
        obtain ⟨rfl, rfl⟩ : c :: tail.takeWhile Char.isDigit = whole ∧
          tail.dropWhile Char.isDigit = rest := by simpa using h
        refine ⟨by rw [List.cons_append, List.takeWhile_append_dropWhile], fun d hd => ?_⟩
        rcases List.mem_cons.1 hd with rfl | hd
        · exact hdigit
        · exact List.mem_takeWhile_imp hd
      · cases h

theorem readFraction_keeps {n n' : NumberText} (h : readFraction n cs = (n', rest)) :
    n'.whole = n.whole ∧ rest <:+ cs := by
  unfold readFraction at h
  split at h
  · rename_i tail
    split at h
    · cases h
      exact ⟨rfl, List.suffix_refl _⟩
    · cases h
      exact ⟨rfl, (List.dropWhile_suffix _).trans (List.suffix_cons _ tail)⟩
  · cases h
    exact ⟨rfl, List.suffix_refl _⟩

theorem splitSign_suffix (cs : List Char) : (Number.splitSign cs).2 <:+ cs := by
  unfold Number.splitSign
  split
  · exact List.suffix_cons _ _
  · exact List.suffix_cons _ _
  · exact List.suffix_refl _

theorem readExponent_keeps {n n' : NumberText} (h : readExponent n cs = (n', rest)) :
    n'.whole = n.whole ∧ rest <:+ cs := by
  unfold readExponent at h
  split at h
  · cases h
    exact ⟨rfl, List.suffix_refl _⟩
  · rename_i mark tail
    split at h
    · dsimp only at h
      split at h
      · cases h
        exact ⟨rfl, List.suffix_refl _⟩
      · cases h
        exact ⟨rfl, (List.dropWhile_suffix _).trans
          ((splitSign_suffix tail).trans (List.suffix_cons mark tail))⟩
    · cases h
      exact ⟨rfl, List.suffix_refl _⟩

/-- A number is refused only for the digits before its point. -/
theorem numberValue_error {n : NumberText} {failure : Failure}
    (h : numberValue limit n = .error failure) :
    failure = .longInteger ∧ ∃ most, limit = some most ∧ most < n.whole.length := by
  unfold numberValue at h
  split at h
  · split at h
    · rename_i hlong
      cases limit with
      | none => exact absurd hlong Bool.false_ne_true
      | some most => exact ⟨(Except.error.inj h).symm, most, rfl, of_decide_eq_true hlong⟩
    · cases h
  · cases h

theorem stays_readNumber (cs : List Char) : Stays limit cs (readNumber limit cs) := by
  unfold readNumber
  split
  rename_i negative unsigned hsigned
  have hunsigned : unsigned <:+ cs := by
    split at hsigned
    · rename_i tail
      obtain ⟨-, rfl⟩ := Prod.mk.inj hsigned
      exact List.suffix_cons _ _
    · exact (Prod.mk.inj hsigned).2 ▸ List.suffix_refl cs
  refine Stays.mono ?_ hunsigned
  split
  · exact .failAt _ _
  · rename_i whole rest hwhole
    obtain ⟨hcut, hdigits⟩ := readWhole?_some hwhole
    split
    rename_i second afterFraction hfraction
    split
    rename_i third afterExponent hexponent
    obtain ⟨hsecond, hleft⟩ := readFraction_keeps hfraction
    obtain ⟨hthird, hend⟩ := readExponent_keeps hexponent
    cases hvalue : numberValue limit third with
    | ok value =>
        have hrest : rest <:+ unsigned := ⟨whole, hcut⟩
        exact hend.trans (hleft.trans hrest)
    | error failure =>
        obtain ⟨rfl, most, hlimit, hmost⟩ := numberValue_error hvalue
        rw [hthird, hsecond] at hmost
        exact ⟨most, hlimit, whole, ⟨[], rest, hcut⟩, hdigits, hmost⟩

theorem stays_readScalar (cs : List Char) : Stays limit cs (readScalar limit cs) := by
  unfold readScalar
  split
  · rename_i tail
    refine Stays.mono (Stays.bind (stays_readString _ tail) fun content after _ => ?_)
      (List.suffix_cons _ tail)
    exact .ok _ after
  · split
    · exact List.drop_suffix _ _
    · exact stays_readNumber cs

/-! ## Values -/

mutual

theorem stays_readValue : ∀ (fuel : Nat) (cs : List Char),
    Stays limit cs (readValue limit fuel cs)
  | 0, cs => .failAt .value cs
  | fuel + 1, cs => by
      unfold readValue
      split
      · rename_i tail
        refine Stays.mono ?_ (List.suffix_cons _ tail)
        split
        · rename_i hclosed
          exact skipBlanks_tail_suffix hclosed
        · exact (stays_readItems fuel [] _).mono (skipBlanks_suffix tail)
      · rename_i tail
        refine Stays.mono ?_ (List.suffix_cons _ tail)
        split
        · rename_i hclosed
          exact skipBlanks_tail_suffix hclosed
        · exact (stays_readEntries fuel [] _).mono (skipBlanks_suffix tail)
      · exact stays_readScalar cs

theorem stays_readItems : ∀ (fuel : Nat) (read : List Value) (cs : List Char),
    Stays limit cs (readItems limit fuel read cs)
  | 0, _, cs => .failAt .value cs
  | fuel + 1, read, cs => by
      refine (stays_readValue fuel cs).bind fun item rest _ => ?_
      dsimp only
      split
      · rename_i tail hclosed
        exact skipBlanks_tail_suffix hclosed
      · rename_i tail hcomma
        exact (stays_readItems fuel _ _).mono
          ((skipBlanks_suffix tail).trans (skipBlanks_tail_suffix hcomma))
      · exact .failAt _ _

theorem stays_readEntries : ∀ (fuel : Nat) (read : List (String × Value)) (cs : List Char),
    Stays limit cs (readEntries limit fuel read cs)
  | 0, _, cs => .failAt .value cs
  | fuel + 1, read, cs => by
      refine (stays_readKey cs).bind fun key rest _ => ?_
      refine (stays_readValue fuel rest).bind fun value after _ => ?_
      dsimp only
      split
      · rename_i tail hclosed
        exact skipBlanks_tail_suffix hclosed
      · rename_i tail hcomma
        exact (stays_readEntries fuel _ _).mono
          ((skipBlanks_suffix tail).trans (skipBlanks_tail_suffix hcomma))
      · exact .failAt _ _

end

/-- Reading fails for an integer of too many digits only if they stand in the text. -/
theorem longRun_of_read {n : Nat} {text : String}
    (h : read (some n) text = .error .longInteger) : LongRun n text.toList := by
  have hdocument : readDocument (some n) text.toList = .error .longInteger := by
    unfold read at h
    dsimp only at h
    split at h
    · cases h
    · assumption
    · cases h
  unfold readDocument at hdocument
  dsimp only at hdocument
  split at hdocument
  · cases hdocument
  · have hstays : Stays (some n) (skipBlanks text.toList) (readValue (some n)
        (2 * text.toList.length + 2) (skipBlanks text.toList)) := stays_readValue _ _
    cases hvalue : readValue (some n) (2 * text.toList.length + 2) (skipBlanks text.toList) with
    | ok result =>
        rw [hvalue] at hdocument
        dsimp only [bind, Except.bind] at hdocument
        split at hdocument
        · cases hdocument
        · cases hdocument
    | error failure =>
        rw [hvalue] at hdocument hstays
        obtain rfl : failure = .longInteger := Except.error.inj hdocument
        obtain ⟨most, hlimit, hrun⟩ := hstays
        obtain rfl : n = most := Option.some.inj hlimit
        exact hrun.mono (skipBlanks_suffix _)

end TaskQuery.Json
