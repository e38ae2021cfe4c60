import TaskQuery.Proofs.Number.Expansion
import TaskQuery.Proofs.Value.Same
/-!
# Values that can be turned into a text

Integers of too many digits cannot, nor can what holds one. A literal of a query never is such
an integer, and no other number is equal to one, so that of two equal values both can be turned
into a text or neither.
-/

namespace TaskQuery

namespace Number

theorem lt_tenPow_iff {n k : Nat} (hk : 0 < k) :
    n < Nat.pow 10 k ↔ (Text.digits n).length ≤ k := by
  constructor
  · intro h
    obtain ⟨j, rfl⟩ := Nat.exists_eq_succ_of_ne_zero (Nat.ne_of_gt hk)
    exact length_digits_le j h
  · intro h
    have hdigits := ofDigits_lt (List.all_eq_true.1 (Text.all_isDigit_digits n))
    rw [ofDigits_digits] at hdigits
    exact Nat.lt_of_lt_of_le hdigits (Nat.pow_le_pow_right (by omega) h)

theorem isShowable_iff_lt {n : Int} :
    isShowable n = true ↔ n.natAbs < Nat.pow 10 digitLimit := by
  rw [isShowable, decide_eq_true_iff]

theorem isShowable_iff_digits {n : Int} :
    isShowable n = true ↔ (Text.digits n.natAbs).length ≤ digitLimit := by
  rw [isShowable_iff_lt, lt_tenPow_iff (by decide)]

theorem isShowable_of_readInt? {text : String} {n : Int}
    (h : readInt? digitLimit text = some n) : isShowable n = true := by
  obtain ⟨cs, -, hread⟩ := Option.bind_eq_some_iff.1 h
  generalize splitSign cs = signed at hread
  obtain ⟨negative, ds⟩ := signed
  dsimp only at hread
  split at hread
  · cases hread
  · rename_i hkept
    rw [Bool.or_eq_true, Bool.or_eq_true, not_or, not_or] at hkept
    obtain ⟨⟨hempty, hother⟩, hlong⟩ := hkept
    have hdigits : ∀ d ∈ ds, d.isDigit = true := by simpa using hother
    have hanew := length_digits_ofDigits (mt List.isEmpty_iff.2 hempty) hdigits
    have hsize : n.natAbs = ofDigits ds := by
      obtain rfl := Option.some.inj hread
      cases negative <;> simp
    rw [isShowable_iff_digits, hsize]
    exact hanew.trans (by simpa using hlong)

theorem twoPow_le_showable : twoPow 1024 ≤ Nat.pow 10 digitLimit :=
  (twoPow_le (by decide)).trans (twoPow_le_tenPow (by decide))

end Number

namespace Value

variable {a v : Value} {items : List Value} {entries : Entries String Value} {key : String}

theorem showableItems_iff :
    showableItems items = true ↔ ∀ item ∈ items, item.isShowable = true := by
  induction items with
  | nil => simp [showableItems]
  | cons item rest ih => rw [showableItems, Bool.and_eq_true, ih, List.forall_mem_cons]

theorem showableItems_eq {others : List Value} (length : items.length = others.length)
    (each : ∀ i (hx : i < items.length) (hy : i < others.length),
      items[i].isShowable = others[i].isShowable) :
    showableItems items = showableItems others := by
  rw [Bool.eq_iff_iff, showableItems_iff, showableItems_iff, List.forall_mem_iff_getElem,
    List.forall_mem_iff_getElem]
  constructor
  · intro hall i hy
    have hx : i < items.length := length ▸ hy
    exact (each i hx hy).symm.trans (hall i hx)
  · intro hall i hx
    have hy : i < others.length := length ▸ hx
    exact (each i hx hy).trans (hall i hy)

theorem showableEntries_iff :
    showableEntries entries = true ↔ ∀ entry ∈ entries, entry.2.isShowable = true := by
  induction entries with
  | nil => simp [showableEntries]
  | cons entry rest ih => rw [showableEntries, Bool.and_eq_true, ih, List.forall_mem_cons]

/-- No finite double is as large as an integer of too many digits. -/
theorem isShowable_of_units {n : Int} {units : Nat} (h : Representable units)
    (hsize : n.natAbs * unitsPerOne = units) : Number.isShowable n = true := by
  have hlimit : n.natAbs * unitsPerOne < twoPow 1024 * unitsPerOne := by
    rw [hsize, ← limit_eq]
    exact h.1
  exact Number.isShowable_iff_lt.2
    (Nat.lt_of_lt_of_le (Nat.lt_of_mul_lt_mul_right hlimit) Number.twoPow_le_showable)

theorem isShowable_of_point {n : Int} (h : v.point? = some (.ofInt n)) :
    v.isShowable = Number.isShowable n := by
  cases v with
  | bool b =>
      obtain rfl := Extended.ofInt_inj.1 (Option.some.inj h)
      cases b <;> decide +kernel
  | int m =>
      obtain rfl := Extended.ofInt_inj.1 (Option.some.inj h)
      rfl
  | float d =>
      cases d with
      | nan => cases h
      | infinite negative => cases negative <;> cases h
      | finite negative units representable =>
          have hsize : n.natAbs * unitsPerOne = units := by
            have hone : ((unitsPerOne : Nat) : Int).natAbs = unitsPerOne := Int.natAbs_natCast _
            rw [← hone, ← Int.natAbs_mul]
            cases negative with
            | true => rw [← Extended.units.inj (Option.some.inj h)]; simp
            | false => rw [← Extended.units.inj (Option.some.inj h)]; simp
          exact (isShowable_of_units representable hsize).symm
  | _ => cases h

/-- Of two equal values both can be shown or neither. -/
theorem Regular.isShowable_eq (ha : a.Regular) (hv : v.Regular) (h : a.same v = true) :
    a.isShowable = v.isShowable := by
  induction ha generalizing v with
  | null => rw [same_null_iff.1 h]
  | bool b =>
      have hb : (Value.bool b).point? = some (.ofInt (if b then 1 else 0)) := rfl
      rw [isShowable_of_point hb, isShowable_of_point ((same_iff_of_point rfl).1 h)]
  | int n => exact (isShowable_of_point ((same_iff_of_point rfl).1 h)).symm
  | float d number =>
      rw [same] at h
      obtain ⟨p, hd, hp⟩ := sameNumber_iff.1 h
      cases v with
      | bool b =>
          obtain rfl := Option.some.inj hp
          rw [isShowable_of_point hd, isShowable_of_point hp]
      | int n =>
          obtain rfl := Option.some.inj hp
          rw [isShowable_of_point hd, isShowable_of_point hp]
      | float e => rfl
      | _ => cases hp
  | text s => rw [same_text_iff.1 h]
  | list xs regular ih =>
      obtain ⟨ys, rfl, hitems⟩ := same_list_iff.1 h
      obtain ⟨hlength, hsame⟩ := sameItems_iff.1 hitems
      cases hv with
      | list _ hys =>
          rw [isShowable, isShowable]
          exact showableItems_eq hlength fun i hx hy =>
            ih _ (List.getElem_mem hx) (hys _ (List.getElem_mem hy)) (hsame i hx hy)
  | mapping xs distinct regular ih =>
      obtain ⟨ys, rfl, hboth⟩ := same_mapping_iff.1 h
      have hsame := (same_mappings_iff.1 hboth).2
      cases hv with
      | mapping _ hdistinct hys =>
          rw [isShowable, isShowable, Bool.eq_iff_iff, showableEntries_iff, showableEntries_iff]
          constructor
          · intro hall entry hentry
            have hy := Entries.get?_of_mem hdistinct hentry
            obtain ⟨x, hx, hxy⟩ := get?_of_same_mapping_right hboth distinct hy
            rw [← ih _ (Entries.mem_of_get? hx) (hys entry hentry) hxy]
            exact hall _ (Entries.mem_of_get? hx)
          · intro hall entry hentry
            obtain ⟨y, hy, hxy⟩ := hsame entry hentry
            have hmem := Entries.mem_of_get? hy
            rw [ih entry hentry (hys _ hmem) hxy]
            exact hall _ hmem

end Value

end TaskQuery
