import TaskQuery.Proofs.Json.Writing
import TaskQuery.Proofs.Query.Canonical
import TaskQuery.Text.Line
/-!
# Values on one line

A value that is written on one line has printed characters of ASCII only, and no blank stands at
its end.
-/

namespace TaskQuery.Json

open Query

variable {c : Char} {cs : List Char}

def isPrinted (c : Char) : Bool :=
  0x20 ≤ c.toNat && c.toNat < 0x7F

theorem isPrinted_iff : isPrinted c = true ↔ 0x20 ≤ c.toNat ∧ c.toNat < 0x7F := by
  rw [isPrinted, Bool.and_eq_true, decide_eq_true_iff, decide_eq_true_iff]

/-! ## Characters of numbers and strings -/

theorem endsLine_of_isPrinted (h : isPrinted c = true) : Text.endsLine c = false := by
  obtain ⟨hlow, hhigh⟩ := isPrinted_iff.1 h
  unfold Text.endsLine
  simp only [Bool.or_eq_false_iff, Bool.and_eq_false_iff, decide_eq_false_iff_not,
    beq_eq_false_iff_ne]
  omega

theorem isPrinted_of_isNumberChar (h : isNumberChar c = true) :
    isPrinted c = true ∧ Text.isBlank c = false := by
  have hascii : c.toNat < 0x80 := by
    rcases Bool.or_eq_true_iff.1 h with hdigit | hmark
    · have hrange := Number.toNat_of_isDigit hdigit
      omega
    · have hall : ['.', 'e', 'E', '+', '-'].all (fun d => d.toNat < 0x80) = true := rfl
      exact of_decide_eq_true (List.all_eq_true.1 hall c (List.contains_iff_mem.1 hmark))
  have hall : ∀ n < 0x80, isNumberChar (Char.ofNat n) = true →
      isPrinted (Char.ofNat n) = true ∧ Text.isBlank (Char.ofNat n) = false := by decide
  exact ascii_induction
    (p := fun c => isNumberChar c = true → isPrinted c = true ∧ Text.isBlank c = false)
    hall hascii h

theorem all_isPrinted_of_isNumber (h : IsNumber cs) : cs.all isPrinted = true :=
  List.all_eq_true.2 fun c hc => (isPrinted_of_isNumberChar (h.isNumberChar c hc)).1

theorem all_isPrinted_hexDigits (width n : Nat) :
    (Text.hexDigits width n).all isPrinted = true := by
  have hall : ∀ d < 16, isPrinted (Text.hexDigit d) = true := by decide
  induction width generalizing n with
  | zero => rfl
  | succ width ih =>
      have hmod : Text.hexDigit n = Text.hexDigit (n % 16) := by
        rw [Text.hexDigit, Text.hexDigit, Nat.mod_mod]
      rw [Text.hexDigits, List.all_append, ih, hmod, List.all_cons,
        hall _ (Nat.mod_lt n (by omega))]
      rfl

theorem all_isPrinted_unitEscape (n : Nat) : (unitEscape n).all isPrinted = true :=
  all_isPrinted_hexDigits 4 n

theorem all_isPrinted_charText (c : Char) : (charText true c).all isPrinted = true := by
  unfold charText
  dsimp only
  split_ifs with hquote hline hreturn htab hback hpage hcontrol hascii hplane
  · rcases Bool.or_eq_true_iff.1 hquote with hc | hc
    all_goals
      obtain rfl := eq_of_beq hc
      rfl
  iterate 5 rfl
  · exact all_isPrinted_unitEscape _
  · have hbelow : c.toNat < 0x7F := of_decide_eq_true hascii
    rw [List.all_cons, isPrinted_iff.2 ⟨by omega, hbelow⟩]
    rfl
  · exact all_isPrinted_unitEscape _
  · rw [List.all_append, all_isPrinted_unitEscape, all_isPrinted_unitEscape]
    rfl

theorem all_isPrinted_stringText (s : String) : (stringText true s).all isPrinted = true := by
  have hinside : (s.toList.flatMap (charText true)).all isPrinted = true := by
    rw [List.all_flatMap]
    exact List.all_eq_true.2 fun c _ => all_isPrinted_charText c
  rw [stringText, List.all_append, List.all_cons, hinside]
  rfl

theorem all_isPrinted_toText (d : Double) : d.toText.toList.all isPrinted = true := by
  cases d with
  | finite negative units representable => exact all_isPrinted_of_isNumber (isNumber_toText rfl)
  | nan => decide
  | infinite negative => cases negative <;> decide

/-! ## Values -/

theorem lineBreak_line (depth : Nat) : lineBreak .line depth = [] := rfl

theorem separator_line (depth : Nat) : separator .line depth = [',', ' '] := rfl

theorem ascii_line : Style.line.ascii = true := rfl

mutual

/-- A value on one line is printed as it is. -/
theorem all_isPrinted_valueText : ∀ (value : Value) (depth : Nat),
    (valueText .line depth value).all isPrinted = true
  | .null, _ => rfl
  | .bool true, _ => rfl
  | .bool false, _ => rfl
  | .int n, _ => all_isPrinted_of_isNumber (isNumber_ofInt n)
  | .float d, _ => all_isPrinted_toText d
  | .text s, _ => all_isPrinted_stringText s
  | .list [], _ => rfl
  | .list (item :: items), depth => by
      have hitem := all_isPrinted_valueText item (depth + 1)
      have hitems := all_isPrinted_itemsText items (depth + 1)
      simp only [valueText, lineBreak_line, List.all_append, List.all_cons, hitem, hitems]
      rfl
  | .mapping [], _ => rfl
  | .mapping ((key, value) :: entries), depth => by
      have hkey := all_isPrinted_stringText key
      have hvalue := all_isPrinted_valueText value (depth + 1)
      have hentries := all_isPrinted_entriesText entries (depth + 1)
      simp only [valueText, lineBreak_line, ascii_line, List.all_append, List.all_cons, hkey,
        hvalue, hentries]
      rfl

theorem all_isPrinted_itemsText : ∀ (items : List Value) (depth : Nat),
    (itemsText .line depth items).all isPrinted = true
  | [], _ => rfl
  | item :: items, depth => by
      have hitem := all_isPrinted_valueText item depth
      have hitems := all_isPrinted_itemsText items depth
      rw [itemsText, separator_line, List.all_append, List.all_append, hitem, hitems]
      rfl

theorem all_isPrinted_entriesText : ∀ (entries : List (String × Value)) (depth : Nat),
    (entriesText .line depth entries).all isPrinted = true
  | [], _ => rfl
  | (key, value) :: entries, depth => by
      have hkey := all_isPrinted_stringText key
      have hvalue := all_isPrinted_valueText value depth
      have hentries := all_isPrinted_entriesText entries depth
      simp only [entriesText, separator_line, ascii_line, List.all_append, hkey, hvalue, hentries]
      rfl

end

theorem isBlank_getLast_valueText (style : Style) (depth : Nat) (value : Value) :
    ∀ c ∈ (valueText style depth value).getLast?, Text.isBlank c = false := by
  have hnumber {cs : List Char} (h : IsNumber cs) : ∀ c ∈ cs.getLast?, Text.isBlank c = false :=
    fun c hc => (isPrinted_of_isNumberChar (h.isNumberChar c (List.mem_of_getLast? hc))).2
  have hclosed (last : Char) (cs : List Char) (h : Text.isBlank last = false) :
      ∀ c ∈ (cs ++ [last]).getLast?, Text.isBlank c = false := by
    intro c hc
    rw [List.getLast?_append] at hc
    rwa [← Option.some.inj hc]
  cases value with
  | null => exact hclosed 'l' "nul".toList (by decide)
  | bool b =>
      cases b with
      | true => exact hclosed 'e' "tru".toList (by decide)
      | false => exact hclosed 'e' "fals".toList (by decide)
  | int n => exact hnumber (isNumber_ofInt n)
  | float d =>
      cases d with
      | finite negative units representable => exact hnumber (isNumber_toText rfl)
      | nan => exact hclosed 'N' "Na".toList (by decide)
      | infinite negative =>
          cases negative with
          | true => exact hclosed 'y' "-Infinit".toList (by decide)
          | false => exact hclosed 'y' "Infinit".toList (by decide)
  | text s => exact hclosed _ _ (by decide)
  | list items =>
      cases items with
      | nil => exact hclosed ']' ['['] (by decide)
      | cons item items =>
          rw [valueText]
          exact hclosed _ _ (by decide)
  | mapping entries =>
      cases entries with
      | nil => exact hclosed '\x7d' ['\x7b'] (by decide)
      | cons entry entries =>
          rw [valueText]
          exact hclosed _ _ (by decide)

end TaskQuery.Json
