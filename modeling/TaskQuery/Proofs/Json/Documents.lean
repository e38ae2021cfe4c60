import TaskQuery.Proofs.Json.Reading
import TaskQuery.Proofs.Json.Scalars
/-!
# Documents are read

Every document of the grammar is read as the value that its tree stands for, however it is laid
out and its strings are written. Only an integer of too many digits is refused.
-/

namespace TaskQuery.Json

variable {limit : Option Nat} {cs rest after : List Char}

/-! ## Values -/

mutual

/-- The value of a tree. There is none if an integer in it has too many digits. -/
def valueOf? (limit : Option Nat) : Tree → Option Value
  | .null => some .null
  | .bool b => some (.bool b)
  | .number text => (numberValue limit (numeral text)).toOption
  | .string content => some (.text (String.ofList content))
  | .array items => (valuesOf? limit items).map .list
  | .object members => (entriesOf? limit [] members).map .mapping

def valuesOf? (limit : Option Nat) : List Tree → Option (List Value)
  | [] => some []
  | t :: ts => do
      let item ← valueOf? limit t
      (valuesOf? limit ts).map (item :: ·)

/-- The entries of an object after those that were `read`. Of two members with one name the later
value stands in the place of the earlier. -/
def entriesOf? (limit : Option Nat) (read : Entries String Value) :
    List (List Char × Tree) → Option (Entries String Value)
  | [] => some read
  | (name, t) :: members => do
      let value ← valueOf? limit t
      entriesOf? limit (read.put (String.ofList name) value) members

end

theorem valueOf?_whole {whole : List Char} (hw : IsWhole whole) :
    valueOf? limit (.number whole) =
      if limit.any (· < whole.length) then none else some (.int (Number.ofDigits whole)) := by
  have hparts := numeral_parts (.inl rfl : ([] : List Char) = [] ∨ [] = ['-']) hw .absent .absent
  rw [List.append_nil, List.append_nil, List.nil_append] at hparts
  have hnumeral : numeral whole = { negative := false, whole } := hparts
  rw [valueOf?, hnumeral, numberValue, if_pos rfl]
  dsimp only
  split
  · rfl
  · rfl

def orLong {α : Type} : Option α → Except Failure α
  | some a => .ok a
  | none => .error .longInteger

def byteOrderMark : Char := Char.ofNat 0xFEFF

def Opens (cs : List Char) : Prop :=
  ∃ c rest, cs = c :: rest ∧ isBlank c = false ∧ c ≠ ']' ∧ c ≠ '\x7d' ∧ c ≠ byteOrderMark

/-- What stands behind a value and the blank characters after it. -/
def Closing (stop : List Char) : Prop :=
  EndsNumber stop ∧ ∀ c ∈ stop.head?, isBlank c = false

def ReadsValue (limit : Option Nat) (t : Tree) (cs : List Char) : Prop :=
  ∀ fuel after, cs.length ≤ fuel → EndsNumber after →
    readValue limit fuel (cs ++ after) = orLong ((valueOf? limit t).map (·, after))

def ReadsItem (limit : Option Nat) (t : Tree) (cs : List Char) : Prop :=
  ∀ fuel stop, cs.length ≤ fuel → Closing stop → ∃ rest, skipBlanks rest = stop ∧
    readValue limit fuel (skipBlanks (cs ++ stop)) = orLong ((valueOf? limit t).map (·, rest))

def ReadsItems (limit : Option Nat) (ts : List Tree) (cs : List Char) : Prop :=
  ∀ fuel read after, cs.length < fuel →
    readItems limit fuel read (skipBlanks (cs ++ ']' :: after)) =
      orLong ((valuesOf? limit ts).map fun items => (.list (read.reverse ++ items), after))

def ReadsMember (limit : Option Nat) (m : List Char × Tree) (cs : List Char) : Prop :=
  ∀ fuel stop, cs.length ≤ fuel → Closing stop → ∃ middle rest, skipBlanks rest = stop ∧
    readKey (skipBlanks (cs ++ stop)) = .ok (String.ofList m.1, middle) ∧
    readValue limit fuel middle = orLong ((valueOf? limit m.2).map (·, rest))

def ReadsMembers (limit : Option Nat) (ms : List (List Char × Tree)) (cs : List Char) : Prop :=
  ∀ fuel read after, cs.length < fuel →
    readEntries limit fuel read (skipBlanks (cs ++ '\x7d' :: after)) =
      orLong ((entriesOf? limit read ms).map (.mapping ·, after))

/-! Blank characters. -/

theorem skipBlanks_append {blanks : List Char} (h : IsBlanks blanks)
    (hrest : ∀ c ∈ rest.head?, isBlank c = false) : skipBlanks (blanks ++ rest) = rest :=
  (span_of_all h hrest).2

theorem endsNumber_append {blanks : List Char} (h : IsBlanks blanks) (hrest : EndsNumber rest) :
    EndsNumber (blanks ++ rest) := by
  cases blanks with
  | nil => exact hrest
  | cons c tail =>
      rintro d ⟨⟩
      have hblank := h c List.mem_cons_self
      unfold isBlank at hblank
      simp only [Bool.or_eq_true, beq_iff_eq] at hblank
      rcases hblank with ((rfl | rfl) | rfl) | rfl
      all_goals decide

theorem closing_nil : Closing [] :=
  ⟨nofun, nofun⟩

theorem closing_cons {c : Char} (h : (c.isDigit = false ∧ c ≠ '.' ∧ c ≠ 'e' ∧ c ≠ 'E') ∧
    isBlank c = false) (rest : List Char) : Closing (c :: rest) := by
  constructor
  · rintro d ⟨⟩
    exact h.1
  · rintro d ⟨⟩
    exact h.2

theorem opens_number (h : IsNumber cs) : Opens cs := by
  obtain ⟨sign, d, tail, rfl | rfl, hd, rfl⟩ := h.first_digit
  · refine ⟨d, tail, rfl, ?_, isDigit_ne hd rfl, isDigit_ne hd rfl, isDigit_ne hd rfl⟩
    unfold isBlank
    simp [isDigit_ne hd (rfl : ' '.isDigit = false), isDigit_ne hd (rfl : '\t'.isDigit = false),
      isDigit_ne hd (rfl : '\n'.isDigit = false), isDigit_ne hd (rfl : '\r'.isDigit = false)]
  · exact ⟨'-', d :: tail, rfl, by decide⟩

theorem readsValue_of_scalar {t : Tree} (hopens : Opens cs)
    (hlist : cs.head? ≠ some '[') (hmapping : cs.head? ≠ some '\x7b')
    (h : ∀ after, EndsNumber after →
      readScalar limit (cs ++ after) = orLong ((valueOf? limit t).map (·, after))) :
    ReadsValue limit t cs := by
  obtain ⟨c, rest, rfl, -⟩ := hopens
  intro fuel after hfuel hafter
  cases fuel with
  | zero => exact absurd hfuel (Nat.not_succ_le_zero _)
  | succ fuel =>
      rw [← h after hafter]
      unfold readValue
      split
      · rename_i tail heq
        exact absurd (congrArg some (List.cons.inj heq).1) hlist
      · rename_i tail heq
        exact absurd (congrArg some (List.cons.inj heq).1) hmapping
      · rfl

/-! ## Items and entries -/

theorem readsItem_of_value {t : Tree} {before back : List Char} (front : IsBlanks before)
    (hopens : Opens cs) (h : ReadsValue limit t cs) (behind : IsBlanks back) :
    ReadsItem limit t (before ++ cs ++ back) := by
  intro fuel stop hfuel hstop
  have hskip : skipBlanks (before ++ cs ++ back ++ stop) = cs ++ (back ++ stop) := by
    obtain ⟨c, rest, rfl, hc, -⟩ := hopens
    have hhead : ∀ d ∈ (c :: rest ++ (back ++ stop)).head?, isBlank d = false := by
      rintro d ⟨⟩
      exact hc
    rw [← skipBlanks_append front hhead]
    simp
  have hlength : cs.length ≤ fuel := by
    simp only [List.length_append] at hfuel
    omega
  refine ⟨back ++ stop, skipBlanks_append behind hstop.2, ?_⟩
  rw [hskip]
  exact h fuel _ hlength (endsNumber_append behind hstop.1)

theorem readItems_last {t : Tree} {fuel : Nat} (h : ReadsItem limit t cs)
    (hfuel : cs.length ≤ fuel) (read : List Value) (after : List Char) :
    readItems limit (fuel + 1) read (skipBlanks (cs ++ ']' :: after)) =
      orLong ((valueOf? limit t).map fun item => (.list (item :: read).reverse, after)) := by
  obtain ⟨rest, hrest, hvalue⟩ := h fuel _ hfuel (closing_cons (c := ']') (by decide) after)
  rw [readItems, hvalue]
  cases valueOf? limit t with
  | none => rfl
  | some item =>
      dsimp only [Option.map_some, orLong, bind, Except.bind]
      rw [hrest]
      rfl

theorem readItems_more {t : Tree} {fuel : Nat} (h : ReadsItem limit t cs)
    (hfuel : cs.length ≤ fuel) (read : List Value) (after : List Char) :
    readItems limit (fuel + 1) read (skipBlanks (cs ++ ',' :: after)) =
      orLong (valueOf? limit t) >>= fun item =>
        readItems limit fuel (item :: read) (skipBlanks after) := by
  obtain ⟨rest, hrest, hvalue⟩ := h fuel _ hfuel (closing_cons (c := ',') (by decide) after)
  rw [readItems, hvalue]
  cases valueOf? limit t with
  | none => rfl
  | some item =>
      dsimp only [Option.map_some, orLong, bind, Except.bind]
      rw [hrest]
      rfl

theorem readsItems_single {t : Tree} (h : ReadsItem limit t cs) : ReadsItems limit [t] cs := by
  intro fuel read after hfuel
  obtain ⟨fuel, rfl⟩ := Nat.exists_eq_add_of_lt (Nat.lt_of_le_of_lt (Nat.zero_le _) hfuel)
  rw [Nat.zero_add, readItems_last h (by omega), valuesOf?]
  cases valueOf? limit t with
  | none => rfl
  | some item =>
      rw [Option.map_some, List.reverse_cons]
      rfl

theorem readsItems_cons {t : Tree} {ts : List Tree} {item others : List Char}
    (h : ReadsItem limit t item) (hs : ReadsItems limit ts others) :
    ReadsItems limit (t :: ts) (item ++ ',' :: others) := by
  intro fuel read after hfuel
  rw [List.length_append, List.length_cons] at hfuel
  obtain ⟨fuel, rfl⟩ := Nat.exists_eq_add_of_lt (Nat.lt_of_le_of_lt (Nat.zero_le _) hfuel)
  rw [Nat.zero_add, List.append_assoc, List.cons_append, readItems_more h (by omega), valuesOf?]
  cases valueOf? limit t with
  | none => rfl
  | some first =>
      refine (hs fuel (first :: read) after (by omega)).trans ?_
      cases valuesOf? limit ts with
      | none => rfl
      | some items =>
          rw [Option.map_some, List.reverse_cons, List.append_assoc]
          rfl

theorem readsMember_of_parts {name key before after value : List Char} {t : Tree}
    (front : IsBlanks before) (chars : SpellsChars name key) (back : IsBlanks after)
    (h : ReadsItem limit t value) :
    ReadsMember limit (name, t) (before ++ '"' :: (key ++ '"' :: (after ++ ':' :: value))) := by
  intro fuel stop hfuel hstop
  have hlength : value.length ≤ fuel := by
    simp only [List.length_append, List.length_cons] at hfuel
    omega
  obtain ⟨rest, hrest, hvalue⟩ := h fuel stop hlength hstop
  refine ⟨_, rest, hrest, ?_, hvalue⟩
  have hskip : skipBlanks
      (before ++ '"' :: (key ++ '"' :: (after ++ ':' :: value)) ++ stop) =
      '"' :: (key ++ '"' :: (after ++ ':' :: (value ++ stop))) := by
    have hquote : ∀ c ∈ ('"' :: (key ++ '"' :: (after ++ ':' :: (value ++ stop)))).head?,
        isBlank c = false := by
      rintro c ⟨⟩
      rfl
    rw [← skipBlanks_append front hquote]
    simp
  have hcolon : skipBlanks (after ++ ':' :: (value ++ stop)) = ':' :: (value ++ stop) := by
    refine skipBlanks_append back ?_
    rintro c ⟨⟩
    rfl
  rw [hskip, readKey, readString_spells _ chars]
  dsimp only [bind, Except.bind]
  rw [hcolon]
  rfl

theorem readEntries_last {m : List Char × Tree} {fuel : Nat} (h : ReadsMember limit m cs)
    (hfuel : cs.length ≤ fuel) (read : Entries String Value) (after : List Char) :
    readEntries limit (fuel + 1) read (skipBlanks (cs ++ '\x7d' :: after)) =
      orLong ((valueOf? limit m.2).map fun value =>
        (.mapping (read.put (String.ofList m.1) value), after)) := by
  obtain ⟨middle, rest, hrest, hkey, hvalue⟩ :=
    h fuel _ hfuel (closing_cons (c := '\x7d') (by decide) after)
  rw [readEntries, hkey]
  dsimp only [bind, Except.bind]
  rw [hvalue]
  cases valueOf? limit m.2 with
  | none => rfl
  | some value =>
      dsimp only [Option.map_some, orLong]
      rw [hrest]
      rfl

theorem readEntries_more {m : List Char × Tree} {fuel : Nat} (h : ReadsMember limit m cs)
    (hfuel : cs.length ≤ fuel) (read : Entries String Value) (after : List Char) :
    readEntries limit (fuel + 1) read (skipBlanks (cs ++ ',' :: after)) =
      orLong (valueOf? limit m.2) >>= fun value =>
        readEntries limit fuel (read.put (String.ofList m.1) value) (skipBlanks after) := by
  obtain ⟨middle, rest, hrest, hkey, hvalue⟩ :=
    h fuel _ hfuel (closing_cons (c := ',') (by decide) after)
  rw [readEntries, hkey]
  dsimp only [bind, Except.bind]
  rw [hvalue]
  cases valueOf? limit m.2 with
  | none => rfl
  | some value =>
      dsimp only [Option.map_some, orLong]
      rw [hrest]
      rfl

theorem readsMembers_single {m : List Char × Tree} (h : ReadsMember limit m cs) :
    ReadsMembers limit [m] cs := by
  intro fuel read after hfuel
  obtain ⟨fuel, rfl⟩ := Nat.exists_eq_add_of_lt (Nat.lt_of_le_of_lt (Nat.zero_le _) hfuel)
  rw [Nat.zero_add, readEntries_last h (by omega), entriesOf?]
  cases valueOf? limit m.2 with
  | none => rfl
  | some value => rfl

theorem readsMembers_cons {m : List Char × Tree} {ms : List (List Char × Tree)}
    {member others : List Char} (h : ReadsMember limit m member)
    (hs : ReadsMembers limit ms others) :
    ReadsMembers limit (m :: ms) (member ++ ',' :: others) := by
  intro fuel read after hfuel
  rw [List.length_append, List.length_cons] at hfuel
  obtain ⟨fuel, rfl⟩ := Nat.exists_eq_add_of_lt (Nat.lt_of_le_of_lt (Nat.zero_le _) hfuel)
  rw [Nat.zero_add, List.append_assoc, List.cons_append, readEntries_more h (by omega), entriesOf?]
  cases valueOf? limit m.2 with
  | none => rfl
  | some value => exact hs fuel _ after (by omega)

/-! ## Lists and mappings -/

def OpensInside (cs : List Char) : Prop :=
  ∃ before inner, IsBlanks before ∧ Opens inner ∧ cs = before ++ inner

theorem OpensInside.skip (h : OpensInside cs) (rest : List Char) :
    ∃ c tail, skipBlanks (cs ++ rest) = c :: tail ∧ c ≠ ']' ∧ c ≠ '\x7d' := by
  obtain ⟨before, inner, hbefore, ⟨c, tail, rfl, hc, hbracket, hbrace, -⟩, rfl⟩ := h
  refine ⟨c, tail ++ rest, ?_, hbracket, hbrace⟩
  rw [List.append_assoc]
  refine skipBlanks_append hbefore ?_
  rintro d ⟨⟩
  exact hc

theorem OpensInside.append (h : OpensInside cs) (rest : List Char) : OpensInside (cs ++ rest) := by
  obtain ⟨before, inner, hbefore, ⟨c, tail, rfl, hc⟩, rfl⟩ := h
  exact ⟨before, c :: (tail ++ rest), hbefore, ⟨c, tail ++ rest, rfl, hc⟩, by simp⟩

theorem readsValue_emptyArray {blanks : List Char} (blank : IsBlanks blanks) :
    ReadsValue limit (.array []) ('[' :: (blanks ++ [']'])) := by
  intro fuel after hfuel hafter
  obtain ⟨fuel, rfl⟩ := Nat.exists_eq_add_of_lt (Nat.lt_of_lt_of_le (Nat.succ_pos _) hfuel)
  have hskip : skipBlanks (blanks ++ ']' :: after) = ']' :: after := by
    refine skipBlanks_append blank ?_
    rintro c ⟨⟩
    rfl
  have htext : '[' :: (blanks ++ [']']) ++ after = '[' :: (blanks ++ ']' :: after) := by simp
  rw [Nat.zero_add, htext, readValue, hskip]
  rfl

theorem readsValue_array {ts : List Tree} (hopens : OpensInside cs)
    (h : ReadsItems limit ts cs) : ReadsValue limit (.array ts) ('[' :: (cs ++ [']'])) := by
  intro fuel after hfuel hafter
  simp only [List.length_cons, List.length_append, List.length_nil] at hfuel
  obtain ⟨fuel, rfl⟩ := Nat.exists_eq_add_of_lt (Nat.lt_of_lt_of_le (Nat.succ_pos _) hfuel)
  have hitems := h fuel [] after (by omega)
  obtain ⟨c, tail, hskip, hbracket, -⟩ := hopens.skip (']' :: after)
  have htext : '[' :: (cs ++ [']']) ++ after = '[' :: (cs ++ ']' :: after) := by simp
  rw [hskip] at hitems
  rw [Nat.zero_add, htext, readValue, hskip]
  split
  · rename_i heq
    exact absurd (List.cons.inj heq).1 hbracket
  · rw [hitems, valueOf?]
    cases valuesOf? limit ts with
    | none => rfl
    | some items => rfl

theorem readsValue_emptyObject {blanks : List Char} (blank : IsBlanks blanks) :
    ReadsValue limit (.object []) ('\x7b' :: (blanks ++ ['\x7d'])) := by
  intro fuel after hfuel hafter
  obtain ⟨fuel, rfl⟩ := Nat.exists_eq_add_of_lt (Nat.lt_of_lt_of_le (Nat.succ_pos _) hfuel)
  have hskip : skipBlanks (blanks ++ '\x7d' :: after) = '\x7d' :: after := by
    refine skipBlanks_append blank ?_
    rintro c ⟨⟩
    rfl
  have htext : '\x7b' :: (blanks ++ ['\x7d']) ++ after = '\x7b' :: (blanks ++ '\x7d' :: after) := by
    simp
  rw [Nat.zero_add, htext, readValue, hskip]
  rfl

theorem readsValue_object {ms : List (List Char × Tree)} (hopens : OpensInside cs)
    (h : ReadsMembers limit ms cs) :
    ReadsValue limit (.object ms) ('\x7b' :: (cs ++ ['\x7d'])) := by
  intro fuel after hfuel hafter
  simp only [List.length_cons, List.length_append, List.length_nil] at hfuel
  obtain ⟨fuel, rfl⟩ := Nat.exists_eq_add_of_lt (Nat.lt_of_lt_of_le (Nat.succ_pos _) hfuel)
  have hentries := h fuel [] after (by omega)
  obtain ⟨c, tail, hskip, -, hbrace⟩ := hopens.skip ('\x7d' :: after)
  have htext : '\x7b' :: (cs ++ ['\x7d']) ++ after = '\x7b' :: (cs ++ '\x7d' :: after) := by simp
  rw [hskip] at hentries
  rw [Nat.zero_add, htext, readValue, hskip]
  split
  · rename_i heq
    exact absurd (List.cons.inj heq).1 hbrace
  · rw [hentries, valueOf?]
    cases entriesOf? limit [] ms with
    | none => rfl
    | some entries => rfl

/-! ## Documents -/

/-- What the reader makes of the text of a part. One item or one entry alone is read as such. -/
inductive Reads (limit : Option Nat) : Part → List Char → Prop where
  | value {t : Tree} {cs : List Char} (opens : Opens cs) (reads : ReadsValue limit t cs) :
      Reads limit (.value t) cs
  | item {t : Tree} {cs : List Char} (opens : OpensInside cs) (reads : ReadsItem limit t cs) :
      Reads limit (.items [t]) cs
  | items {t u : Tree} {ts : List Tree} {cs : List Char} (opens : OpensInside cs)
      (reads : ReadsItems limit (t :: u :: ts) cs) : Reads limit (.items (t :: u :: ts)) cs
  | member {m : List Char × Tree} {cs : List Char} (opens : OpensInside cs)
      (reads : ReadsMember limit m cs) : Reads limit (.members [m]) cs
  | members {m n : List Char × Tree} {ms : List (List Char × Tree)} {cs : List Char}
      (opens : OpensInside cs) (reads : ReadsMembers limit (m :: n :: ms) cs) :
      Reads limit (.members (m :: n :: ms)) cs

theorem Reads.of_items {ts : List Tree} (h : Reads limit (.items ts) cs) :
    OpensInside cs ∧ ReadsItems limit ts cs := by
  cases h with
  | item opens reads => exact ⟨opens, readsItems_single reads⟩
  | items opens reads => exact ⟨opens, reads⟩

theorem Reads.of_members {ms : List (List Char × Tree)} (h : Reads limit (.members ms) cs) :
    OpensInside cs ∧ ReadsMembers limit ms cs := by
  cases h with
  | member opens reads => exact ⟨opens, readsMembers_single reads⟩
  | members opens reads => exact ⟨opens, reads⟩

theorem Reads.of_scalar {t : Tree} (hopens : Opens cs) (hlist : cs.head? ≠ some '[')
    (hmapping : cs.head? ≠ some '\x7b')
    (h : ∀ after, EndsNumber after →
      readScalar limit (cs ++ after) = orLong ((valueOf? limit t).map (·, after))) :
    Reads limit (.value t) cs :=
  .value hopens (readsValue_of_scalar hopens hlist hmapping h)

theorem Reads.of_number (number : IsNumber cs) : Reads limit (.value (.number cs)) cs := by
  have hhead : cs.head? ≠ some '[' ∧ cs.head? ≠ some '\x7b' := by
    obtain ⟨sign, d, tail, rfl | rfl, hd, rfl⟩ := number.first_digit
    · exact ⟨fun h => isDigit_ne hd rfl (Option.some.inj h),
        fun h => isDigit_ne hd rfl (Option.some.inj h)⟩
    · exact ⟨nofun, nofun⟩
  refine .of_scalar (opens_number number) hhead.1 hhead.2 fun after hafter => ?_
  rw [readScalar_number number hafter, valueOf?]
  cases hvalue : numberValue limit (numeral cs) with
  | ok value => rfl
  | error failure =>
      obtain rfl := (numberValue_error hvalue).1
      rfl

/-- The texts of the grammar are read as what they spell. -/
theorem Spells.reads {p : Part} (h : Spells p cs) : Reads limit p cs := by
  induction h with
  | null =>
      exact .of_scalar ⟨'n', _, rfl, by decide⟩ (by decide) (by decide) fun after _ => rfl
  | true =>
      exact .of_scalar ⟨'t', _, rfl, by decide⟩ (by decide) (by decide) fun after _ => rfl
  | false =>
      exact .of_scalar ⟨'f', _, rfl, by decide⟩ (by decide) (by decide) fun after _ => rfl
  | number number => exact .of_number number
  | @string content cs chars =>
      refine .of_scalar ⟨'"', _, rfl, by decide⟩ nofun nofun fun after _ => ?_
      rw [List.cons_append, List.append_assoc]
      exact readScalar_string chars after
  | emptyArray blank =>
      exact .value ⟨'[', _, rfl, by decide⟩ (readsValue_emptyArray blank)
  | array items ih =>
      obtain ⟨hopens, hitems⟩ := ih.of_items
      exact .value ⟨'[', _, rfl, by decide⟩ (readsValue_array hopens hitems)
  | emptyObject blank =>
      exact .value ⟨'\x7b', _, rfl, by decide⟩ (readsValue_emptyObject blank)
  | object members ih =>
      obtain ⟨hopens, hmembers⟩ := ih.of_members
      exact .value ⟨'\x7b', _, rfl, by decide⟩ (readsValue_object hopens hmembers)
  | @item t before cs after front value back ih =>
      cases ih with
      | value hopens hreads =>
          have hinside : OpensInside (before ++ cs) := ⟨before, cs, front, hopens, rfl⟩
          exact .item (hinside.append after) (readsItem_of_value front hopens hreads back)
  | items first rest ihf ihr =>
      obtain ⟨hopens, hitems⟩ := ihr.of_items
      cases ihf with
      | item hinside hitem =>
          cases ihr with
          | item => exact .items (hinside.append _) (readsItems_cons hitem hitems)
          | items => exact .items (hinside.append _) (readsItems_cons hitem hitems)
  | @member name t before key after cs front chars back value ih =>
      cases ih with
      | item hopens hitem =>
          exact .member ⟨before, _, front, ⟨'"', _, rfl, by decide⟩, rfl⟩
            (readsMember_of_parts front chars back hitem)
  | members first rest ihf ihr =>
      obtain ⟨hopens, hmembers⟩ := ihr.of_members
      cases ihf with
      | member hinside hmember =>
          cases ihr with
          | member => exact .members (hinside.append _) (readsMembers_cons hmember hmembers)
          | members => exact .members (hinside.append _) (readsMembers_cons hmember hmembers)

theorem OpensInside.head?_ne (h : OpensInside cs) : cs.head? ≠ some byteOrderMark := by
  obtain ⟨before, inner, hbefore, ⟨c, tail, rfl, -, -, -, hmark⟩, rfl⟩ := h
  cases before with
  | nil => exact fun h => hmark (Option.some.inj h)
  | cons blank others =>
      intro h
      have hblank := hbefore blank List.mem_cons_self
      rw [Option.some.inj h] at hblank
      exact absurd hblank (by decide)

theorem readDocument_of_document {t : Tree} (h : Document t cs) :
    readDocument limit cs = orLong (valueOf? limit t) := by
  obtain ⟨hopens, hitem⟩ : OpensInside cs ∧ ReadsItem limit t cs := by
    cases Spells.reads h with
    | item opens reads => exact ⟨opens, reads⟩
  obtain ⟨rest, hrest, hvalue⟩ := hitem (2 * cs.length + 2) [] (by omega) closing_nil
  rw [List.append_nil] at hvalue
  have hmark : ¬ cs.head? = some (Char.ofNat 0xFEFF) := hopens.head?_ne
  unfold readDocument
  dsimp only
  rw [if_neg hmark, hvalue]
  cases valueOf? limit t with
  | none => rfl
  | some value =>
      dsimp only [Option.map_some, orLong, bind, Except.bind]
      rw [hrest]
      rfl

/-- A document is read as its value, and refused just if an integer in it has too many digits. -/
theorem read_of_document {t : Tree} {text : String} (h : Document t text.toList) :
    (∀ value, valueOf? limit t = some value → read limit text = .ok value) ∧
      (valueOf? limit t = none → read limit text = .error .longInteger) := by
  unfold read
  dsimp only
  rw [readDocument_of_document h]
  constructor
  · intro value hvalue
    rw [hvalue]
    rfl
  · intro hnone
    rw [hnone]
    rfl

end TaskQuery.Json
