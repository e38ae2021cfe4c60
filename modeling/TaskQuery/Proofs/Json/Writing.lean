import TaskQuery.Json.Writer
import TaskQuery.Proofs.Json.NumberText
/-!
# Documents written

A value is written as a document of the grammar just if all doubles in it are finite. The tree
of that document is the value with its numbers as texts.
-/

namespace TaskQuery

namespace Value

mutual

def allFinite : Value → Bool
  | .float d => d.isFinite
  | .list items => allFiniteItems items
  | .mapping entries => allFiniteEntries entries
  | _ => true

def allFiniteItems : List Value → Bool
  | [] => true
  | item :: items => allFinite item && allFiniteItems items

def allFiniteEntries : List (String × Value) → Bool
  | [] => true
  | (_, value) :: entries => allFinite value && allFiniteEntries entries

end

end Value

namespace Json

mutual

def treeOf : Value → Tree
  | .null => .null
  | .bool b => .bool b
  | .int n => .number (Text.ofInt n).toList
  | .float d => .number d.toText.toList
  | .text s => .string s.toList
  | .list items => .array (treesOf items)
  | .mapping entries => .object (membersOf entries)

def treesOf : List Value → List Tree
  | [] => []
  | item :: items => treeOf item :: treesOf items

def membersOf : List (String × Value) → List (List Char × Tree)
  | [] => []
  | (key, value) :: entries => (key.toList, treeOf value) :: membersOf entries

end

variable {ascii : Bool} {style : Style} {depth n : Nat} {c : Char} {t : Tree}
  {value : Value} {content before after cs : List Char}

/-! ## Strings -/

theorem hexValue?_hexDigit (d : Nat) : Text.hexValue? (Text.hexDigit d) = some (d % 16) := by
  have all : ∀ d < 16, Text.hexValue? (Text.hexDigit d) = some d := by decide
  have hmod : Text.hexDigit d = Text.hexDigit (d % 16) := by
    rw [Text.hexDigit, Text.hexDigit, Nat.mod_mod]
  rw [hmod]
  exact all _ (Nat.mod_lt d (by omega))

theorem isUnit_hexDigits (h : n < 0x10000) : IsUnit (Text.hexDigits 4 n) n := by
  have hunit := IsUnit.digits (hexValue?_hexDigit (n / 16 / 16 / 16))
    (hexValue?_hexDigit (n / 16 / 16)) (hexValue?_hexDigit (n / 16)) (hexValue?_hexDigit n)
  have hvalue : ((n / 16 / 16 / 16 % 16 * 16 + n / 16 / 16 % 16) * 16 + n / 16 % 16) * 16 +
      n % 16 = n := by omega
  rw [hvalue] at hunit
  exact hunit

theorem not_half (c : Char) : isHighHalf c.toNat = false ∧ isLowHalf c.toNat = false := by
  have hvalid : c.toNat < 0xD800 ∨ 0xDFFF < c.toNat ∧ c.toNat < 0x110000 := c.valid
  unfold isHighHalf isLowHalf
  constructor
  · simp only [Bool.and_eq_false_iff, decide_eq_false_iff_not]
    omega
  · simp only [Bool.and_eq_false_iff, decide_eq_false_iff_not]
    omega

theorem toNat_lt (c : Char) : c.toNat < 0x110000 := by
  have hvalid : c.toNat < 0xD800 ∨ 0xDFFF < c.toNat ∧ c.toNat < 0x110000 := c.valid
  omega

theorem spellsChars_unitEscape (h : c.toNat < 0x10000) (rest : SpellsChars content cs) :
    SpellsChars (c :: content) (unitEscape c.toNat ++ cs) := by
  have hunit := SpellsChars.unit (isUnit_hexDigits h) (not_half c) rest
  rwa [Char.ofNat_toNat] at hunit

theorem spellsChars_pair (h : 0x10000 ≤ c.toNat) (rest : SpellsChars content cs) :
    SpellsChars (c :: content)
      (unitEscape (0xD800 + (c.toNat - 0x10000) / 0x400) ++
        unitEscape (0xDC00 + (c.toNat - 0x10000) % 0x400) ++ cs) := by
  have hlimit := toNat_lt c
  generalize hhigh : 0xD800 + (c.toNat - 0x10000) / 0x400 = high
  generalize hlow : 0xDC00 + (c.toNat - 0x10000) % 0x400 = low
  have hhalves : isHighHalf high = true ∧ isLowHalf low = true := by
    unfold isHighHalf isLowHalf
    simp only [Bool.and_eq_true, decide_eq_true_eq]
    omega
  have hchar : pairChar high low = c := by
    have hcode : 0x10000 + (high - 0xD800) * 0x400 + (low - 0xDC00) = c.toNat := by omega
    rw [pairChar, hcode, Char.ofNat_toNat]
  have hpair := SpellsChars.pair (isUnit_hexDigits (n := high) (by omega))
    (isUnit_hexDigits (n := low) (by omega)) hhalves rest
  rw [hchar] at hpair
  have hshape : unitEscape high ++ unitEscape low ++ cs =
      '\\' :: 'u' :: (Text.hexDigits 4 high ++ '\\' :: 'u' :: (Text.hexDigits 4 low ++ cs)) := by
    rw [unitEscape, unitEscape, List.append_assoc]
    rfl
  rw [hshape]
  exact hpair

theorem spellsChars_short {mark : Char} (hcode : c.toNat = n)
    (hescape : simpleEscape? mark = some (Char.ofNat n)) (rest : SpellsChars content cs) :
    SpellsChars (c :: content) ('\\' :: mark :: cs) := by
  rw [← hcode, Char.ofNat_toNat] at hescape
  exact .short hescape rest

theorem spellsChars_charText (ascii : Bool) (c : Char) (rest : SpellsChars content cs) :
    SpellsChars (c :: content) (charText ascii c ++ cs) := by
  unfold charText
  dsimp only
  split_ifs with hmark hnewline hreturn htab hback hfeed hlow hplain hunit
  · have hescape : simpleEscape? c = some c := by
      rw [simpleEscape?, if_pos (by rw [hmark, Bool.true_or])]
    exact .short hescape rest
  · exact spellsChars_short (congrArg Char.toNat (eq_of_beq hnewline)) (by decide) rest
  · exact spellsChars_short (congrArg Char.toNat (eq_of_beq hreturn)) (by decide) rest
  · exact spellsChars_short (congrArg Char.toNat (eq_of_beq htab)) (by decide) rest
  · exact spellsChars_short hback (by decide) rest
  · exact spellsChars_short hfeed (by decide) rest
  · exact spellsChars_unitEscape (by omega) rest
  · rw [Bool.or_eq_true, beq_iff_eq, beq_iff_eq, not_or] at hmark
    exact .plain (by omega) hmark.1 hmark.2 rest
  · exact spellsChars_unitEscape hunit rest
  · exact spellsChars_pair (by omega) rest

theorem spellsChars_flatMap (ascii : Bool) (content : List Char) :
    SpellsChars content (content.flatMap (charText ascii)) := by
  induction content with
  | nil => exact .nil
  | cons c rest ih =>
      rw [List.flatMap_cons]
      exact spellsChars_charText ascii c ih

/-! ## Values -/

theorem isBlanks_nil : IsBlanks [] :=
  fun _ hc => absurd hc List.not_mem_nil

theorem isBlanks_lineBreak (style : Style) (depth : Nat) : IsBlanks (lineBreak style depth) := by
  unfold lineBreak
  split
  · exact isBlanks_nil
  · rename_i spaces _
    refine List.forall_mem_cons.2 ⟨rfl, fun c hc => ?_⟩
    rw [List.eq_of_mem_replicate hc]
    rfl

theorem separator_eq (style : Style) (depth : Nat) :
    ∃ blanks, IsBlanks blanks ∧ separator style depth = ',' :: blanks := by
  unfold separator
  split
  · exact ⟨[' '], List.forall_mem_singleton.2 rfl, rfl⟩
  · exact ⟨lineBreak style depth, isBlanks_lineBreak style depth, rfl⟩

theorem spells_member (ascii : Bool) (key : String) (front : IsBlanks before)
    (value : Spells (.value t) cs) (back : IsBlanks after) :
    Spells (.members [(key.toList, t)])
      (before ++ stringText ascii key ++ [':', ' '] ++ (cs ++ after)) := by
  have hspace : IsBlanks [' '] := List.forall_mem_singleton.2 rfl
  have hmember := Spells.member front (spellsChars_flatMap ascii key.toList) isBlanks_nil
    (.item hspace value back)
  simpa only [stringText, List.append_assoc, List.cons_append, List.nil_append] using hmember

mutual

/-- A value whose doubles are finite is written as its tree. -/
theorem spells_valueText (style : Style) : ∀ (value : Value) (depth : Nat),
    value.allFinite = true → Spells (.value (treeOf value)) (valueText style depth value)
  | .null, _, _ => .null
  | .bool true, _, _ => .true
  | .bool false, _, _ => .false
  | .int n, _, _ => .number (isNumber_ofInt n)
  | .float d, _, h => .number (isNumber_toText h)
  | .text s, _, _ => .string (spellsChars_flatMap style.ascii s.toList)
  | .list [], _, _ => .emptyArray isBlanks_nil
  | .list (item :: items), depth, h => by
      obtain ⟨hitem, hitems⟩ := Bool.and_eq_true_iff.1 h
      have hfirst := spells_valueText style item (depth + 1) hitem
      have hall := spells_itemsText style items (depth + 1) hitems
        (isBlanks_lineBreak style (depth + 1)) hfirst (isBlanks_lineBreak style depth)
      exact .array hall
  | .mapping [], _, _ => .emptyObject isBlanks_nil
  | .mapping ((key, value) :: entries), depth, h => by
      obtain ⟨hvalue, hentries⟩ := Bool.and_eq_true_iff.1 h
      have hfirst := spells_valueText style value (depth + 1) hvalue
      have hall := spells_entriesText style entries (depth + 1) hentries key
        (isBlanks_lineBreak style (depth + 1)) hfirst (isBlanks_lineBreak style depth)
      exact .object hall

theorem spells_itemsText (style : Style) : ∀ (items : List Value) (depth : Nat),
    Value.allFiniteItems items = true → ∀ {t : Tree} {before cs after : List Char},
      IsBlanks before → Spells (.value t) cs → IsBlanks after →
      Spells (.items (t :: treesOf items)) (before ++ cs ++ itemsText style depth items ++ after)
  | [], _, _, _, _, _, _, front, value, back => by
      rw [itemsText, List.append_nil]
      exact .item front value back
  | item :: items, depth, h, _, before, cs, after, front, value, back => by
      obtain ⟨hitem, hitems⟩ := Bool.and_eq_true_iff.1 h
      obtain ⟨blanks, hblanks, hseparator⟩ := separator_eq style depth
      have hnext := spells_valueText style item depth hitem
      have hrest := spells_itemsText style items depth hitems hblanks hnext back
      have hfirst := Spells.item front value isBlanks_nil
      rw [List.append_nil] at hfirst
      have hall := hfirst.items hrest
      rw [itemsText, hseparator, treesOf]
      simpa only [List.append_assoc, List.cons_append] using hall

theorem spells_entriesText (style : Style) : ∀ (entries : List (String × Value)) (depth : Nat),
    Value.allFiniteEntries entries = true → ∀ (key : String) {t : Tree}
      {before cs after : List Char}, IsBlanks before → Spells (.value t) cs → IsBlanks after →
      Spells (.members ((key.toList, t) :: membersOf entries))
        (before ++ stringText style.ascii key ++ [':', ' '] ++ cs ++
          entriesText style depth entries ++ after)
  | [], _, _, key, _, before, cs, after, front, value, back => by
      rw [entriesText, List.append_nil, List.append_assoc (_ ++ [':', ' '])]
      exact spells_member style.ascii key front value back
  | (next, value') :: entries, depth, h, key, _, before, cs, after, front, value, back => by
      obtain ⟨hvalue, hentries⟩ := Bool.and_eq_true_iff.1 h
      obtain ⟨blanks, hblanks, hseparator⟩ := separator_eq style depth
      have hnext := spells_valueText style value' depth hvalue
      have hrest := spells_entriesText style entries depth hentries next hblanks hnext back
      have hfirst := spells_member style.ascii key front value isBlanks_nil
      rw [List.append_nil] at hfirst
      have hall := hfirst.members hrest
      rw [entriesText, hseparator, membersOf]
      simpa only [List.append_assoc, List.cons_append] using hall

end

/-! ## Doubles that are no numbers -/

/-- A text that shows a word outside its strings unless what it writes is finite. -/
structure Reveals (finite : Bool) (cs : List Char) : Prop where
  closed : Closed cs
  shows : finite = false → ShowsWord cs

namespace Reveals

variable {p q : Bool} {a b : List Char}

theorem of_closed (h : Closed cs) : Reveals true cs where
  closed := h
  shows := fun h => Bool.noConfusion h

theorem append (ha : Reveals p a) (hb : Reveals q b) : Reveals (p && q) (a ++ b) where
  closed := ha.closed.append hb.closed
  shows h := by
    rw [showsWord_append ha.closed]
    exact (Bool.and_eq_false_iff.1 h).imp ha.shows hb.shows

/-- What stands around a text and is closed does not matter. -/
theorem around (before after : List Char) (hbefore : Closed before) (h : Reveals p cs)
    (hafter : Closed after) : Reveals p (before ++ cs ++ after) := by
  have hall := ((of_closed hbefore).append h).append (of_closed hafter)
  rwa [Bool.true_and, Bool.and_true] at hall

end Reveals

theorem closed_of_chars (h : ∀ c ∈ cs, c ≠ '"' ∧ c ≠ 'N' ∧ c ≠ 'I') : Closed cs :=
  .of_no_quote fun c hc => (h c hc).1

theorem closed_stringText (ascii : Bool) (key : String) : Closed (stringText ascii key) :=
  (spellsChars_flatMap ascii key.toList).closed

theorem closed_lineBreak (style : Style) (depth : Nat) : Closed (lineBreak style depth) :=
  closed_of_chars (isBlanks_lineBreak style depth).chars

theorem closed_separator (style : Style) (depth : Nat) : Closed (separator style depth) := by
  obtain ⟨blanks, hblanks, hseparator⟩ := separator_eq style depth
  rw [hseparator]
  exact (closed_of_chars hblanks.chars).cons (by decide)

theorem reveals_toText (d : Double) : Reveals d.isFinite d.toText.toList := by
  cases d with
  | finite negative units representable =>
      exact .of_closed (closed_of_chars (isNumber_toText rfl).chars)
  | nan => exact ⟨by decide, fun _ => by decide⟩
  | infinite negative =>
      cases negative with
      | true => exact ⟨by decide, fun _ => by decide⟩
      | false => exact ⟨by decide, fun _ => by decide⟩

mutual

/-- A value with a double that is not finite is written with the word for it. -/
theorem reveals_valueText (style : Style) : ∀ (value : Value) (depth : Nat),
    Reveals value.allFinite (valueText style depth value)
  | .null, _ => .of_closed rfl
  | .bool true, _ => .of_closed rfl
  | .bool false, _ => .of_closed rfl
  | .int n, _ => .of_closed (closed_of_chars (isNumber_ofInt n).chars)
  | .float d, _ => reveals_toText d
  | .text s, _ => .of_closed (closed_stringText style.ascii s)
  | .list [], _ => .of_closed rfl
  | .list (item :: items), depth => by
      have hitems := (reveals_valueText style item (depth + 1)).append
        (reveals_itemsText style items (depth + 1))
      have hall := Reveals.around ('[' :: lineBreak style (depth + 1))
        (lineBreak style depth ++ [']']) ((closed_lineBreak style _).cons (by decide)) hitems
        ((closed_lineBreak style depth).append (by decide))
      rw [valueText, Value.allFinite, Value.allFiniteItems]
      simpa only [List.append_assoc] using hall
  | .mapping [], _ => .of_closed rfl
  | .mapping ((key, value) :: entries), depth => by
      have hentries := (reveals_valueText style value (depth + 1)).append
        (reveals_entriesText style entries (depth + 1))
      have hkey := (closed_stringText style.ascii key).append (b := [':', ' ']) (by decide)
      have hall := Reveals.around
        ('\x7b' :: lineBreak style (depth + 1) ++ (stringText style.ascii key ++ [':', ' ']))
        (lineBreak style depth ++ ['\x7d'])
        (((closed_lineBreak style _).cons (by decide)).append hkey) hentries
        ((closed_lineBreak style depth).append (by decide))
      rw [valueText, Value.allFinite, Value.allFiniteEntries]
      simpa only [List.append_assoc] using hall

theorem reveals_itemsText (style : Style) : ∀ (items : List Value) (depth : Nat),
    Reveals (Value.allFiniteItems items) (itemsText style depth items)
  | [], _ => .of_closed rfl
  | item :: items, depth => by
      have hitem := (Reveals.of_closed (closed_separator style depth)).append
        (reveals_valueText style item depth)
      exact hitem.append (reveals_itemsText style items depth)

theorem reveals_entriesText (style : Style) : ∀ (entries : List (String × Value)) (depth : Nat),
    Reveals (Value.allFiniteEntries entries) (entriesText style depth entries)
  | [], _ => .of_closed rfl
  | (key, value) :: entries, depth => by
      have hkey := ((closed_separator style depth).append
        (closed_stringText style.ascii key)).append (b := [':', ' ']) (by decide)
      have hvalue := (Reveals.of_closed hkey).append (reveals_valueText style value depth)
      exact hvalue.append (reveals_entriesText style entries depth)

end

/-! ## Documents -/

theorem document_write (h : value.allFinite = true) :
    Document (treeOf value) (write style value ++ "\n").toList := by
  have hline : IsBlanks ['\n'] := List.forall_mem_singleton.2 rfl
  rw [String.toList_append, write, String.toList_ofList]
  exact .item isBlanks_nil (spells_valueText style value 0 h) hline

/-- Just the values whose doubles are finite are written as documents. -/
theorem exists_document_iff :
    (∃ t, Document t (write style value ++ "\n").toList) ↔ value.allFinite = true := by
  constructor
  · rintro ⟨t, ht⟩
    by_contra hnot
    have hend : Reveals true ['\n'] := .of_closed rfl
    have hline := (reveals_valueText style value 0).append hend
    rw [Bool.and_true] at hline
    refine ht.not_showsWord ?_
    rw [String.toList_append, write, String.toList_ofList]
    exact hline.shows (Bool.eq_false_of_not_eq_true hnot)
  · exact fun h => ⟨treeOf value, document_write h⟩

end Json

end TaskQuery
