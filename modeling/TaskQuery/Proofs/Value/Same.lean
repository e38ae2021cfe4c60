import TaskQuery.Proofs.Value.Alike
/-!
# Equality by meaning

On values without not-a-number, whose mappings have each key once, equality by meaning is
an equivalence, though integers, booleans and doubles of one size are equal.
-/

namespace TaskQuery.Value

variable {a v w : Value} {xs ys : List Value} {entries : Entries String Value}

/-- Values without not-a-number, and with each key of a mapping once. -/
inductive Regular : Value → Prop where
  | null : Regular .null
  | bool (b : Bool) : Regular (.bool b)
  | int (n : Int) : Regular (.int n)
  | float (d : Double) (number : d ≠ .nan) : Regular (.float d)
  | text (s : String) : Regular (.text s)
  | list (items : List Value) (regular : ∀ item ∈ items, Regular item) : Regular (.list items)
  | mapping (entries : Entries String Value) (distinct : (Entries.keys entries).Nodup)
      (regular : ∀ entry ∈ entries, Regular entry.2) : Regular (.mapping entries)

/-! ## Equality at each constructor -/

theorem sameNumber_iff :
    a.sameNumber v = true ↔ ∃ p, a.point? = some p ∧ v.point? = some p := by
  rw [sameNumber]
  cases a.point? <;> cases v.point? <;> simp
  exact eq_comm

/-- A value with a place on the number line equals exactly the values there. -/
theorem same_iff_of_point {p : Extended} (h : a.point? = some p) :
    a.same v = true ↔ v.point? = some p := by
  have hnumber : a.same v = a.sameNumber v := by
    cases a
    case bool => rw [same]
    case int => rw [same]
    case float => rw [same]
    all_goals exact absurd h (by simp [point?])
  rw [hnumber, sameNumber_iff, h]
  simp

theorem same_null_iff : same .null v = true ↔ v = .null := by
  cases v <;> simp [same]

theorem same_text_iff {s : String} : same (.text s) v = true ↔ v = .text s := by
  cases v <;> simp [same]
  exact eq_comm

theorem sameItems_iff :
    sameItems xs ys = true ↔
      xs.length = ys.length ∧ ∀ (i : Nat) (hx : i < xs.length) (hy : i < ys.length),
        xs[i].same ys[i] = true := by
  induction xs generalizing ys with
  | nil => cases ys <;> simp [sameItems]
  | cons x xs ih =>
      cases ys with
      | nil => simp [sameItems]
      | cons y ys =>
          rw [sameItems, Bool.and_eq_true, ih]
          constructor
          · rintro ⟨hxy, hlength, hrest⟩
            refine ⟨by simp [hlength], fun i hx hy => ?_⟩
            cases i with
            | zero => exact hxy
            | succ i => exact hrest i (by simpa using hx) (by simpa using hy)
          · rintro ⟨hlength, hall⟩
            refine ⟨hall 0 (by simp) (by simp), by simpa using hlength, fun i hx hy => ?_⟩
            exact hall (i + 1) (by simpa using hx) (by simpa using hy)

theorem same_list_iff :
    same (.list xs) v = true ↔ ∃ ys, v = .list ys ∧ sameItems xs ys = true := by
  cases v <;> simp [same]

theorem same_mapping_iff :
    same (.mapping entries) v = true ↔
      ∃ others : Entries String Value, v = .mapping others ∧
        same (.mapping entries) (.mapping others) = true := by
  cases v <;> simp [same]

theorem same_mappings_iff {others : Entries String Value} :
    same (.mapping entries) (.mapping others) = true ↔
      entries.length = others.length ∧
        ∀ entry ∈ entries, ∃ y, others.get? entry.1 = some y ∧ entry.2.same y = true := by
  rw [same, Bool.and_eq_true, beq_iff_eq, sameEntries_iff]

/-! ## Equivalence -/

theorem Regular.refl (h : a.Regular) : a.same a = true := by
  induction h with
  | null => rfl
  | bool b => exact (same_iff_of_point rfl).2 rfl
  | int n => exact (same_iff_of_point rfl).2 rfl
  | float d number =>
      have hpoint : ∃ p, (Value.float d).point? = some p := by
        cases d with
        | nan => exact absurd rfl number
        | infinite negative => cases negative <;> exact ⟨_, rfl⟩
        | finite negative units representable => cases negative <;> exact ⟨_, rfl⟩
      obtain ⟨p, hp⟩ := hpoint
      exact (same_iff_of_point hp).2 hp
  | text s => exact same_text_iff.2 rfl
  | list items regular ih =>
      refine same_list_iff.2 ⟨items, rfl, sameItems_iff.2 ⟨rfl, fun i hx hy => ?_⟩⟩
      exact ih _ (List.getElem_mem hx)
  | mapping entries distinct regular ih =>
      refine same_mappings_iff.2 ⟨rfl, fun entry hentry => ?_⟩
      exact ⟨entry.2, Entries.get?_of_mem distinct hentry, ih entry hentry⟩

theorem Regular.symm (ha : a.Regular) (hv : v.Regular) (h : a.same v = true) :
    v.same a = true := by
  induction ha generalizing v with
  | null =>
      obtain rfl := same_null_iff.1 h
      rfl
  | bool b => exact (same_iff_of_point ((same_iff_of_point rfl).1 h)).2 rfl
  | int n => exact (same_iff_of_point ((same_iff_of_point rfl).1 h)).2 rfl
  | float d number =>
      rw [same] at h
      obtain ⟨p, hd, hp⟩ := sameNumber_iff.1 h
      exact (same_iff_of_point hp).2 hd
  | text s =>
      obtain rfl := same_text_iff.1 h
      exact h
  | list xs regular ih =>
      obtain ⟨ys, rfl, hitems⟩ := same_list_iff.1 h
      obtain ⟨hlength, hsame⟩ := sameItems_iff.1 hitems
      cases hv with
      | list _ hys =>
          refine same_list_iff.2 ⟨xs, rfl, sameItems_iff.2 ⟨hlength.symm, fun i hy hx => ?_⟩⟩
          exact ih _ (List.getElem_mem hx) (hys _ (List.getElem_mem hy)) (hsame i hx hy)
  | mapping xs distinct regular ih =>
      obtain ⟨ys, rfl, hboth⟩ := same_mapping_iff.1 h
      cases hv with
      | mapping _ hdistinct hys =>
          refine same_mappings_iff.2 ⟨(same_mappings_iff.1 hboth).1.symm, fun entry hentry => ?_⟩
          have hy := Entries.get?_of_mem hdistinct hentry
          obtain ⟨x, hx, hsame⟩ := get?_of_same_mapping_right hboth distinct hy
          exact ⟨x, hx, ih _ (Entries.mem_of_get? hx) (hys entry hentry) hsame⟩

theorem Regular.trans (ha : a.Regular) (h : a.same v = true) (k : v.same w = true) :
    a.same w = true := by
  induction ha generalizing v w with
  | null => exact same_null_iff.1 h ▸ k
  | bool b =>
      rw [same_iff_of_point rfl] at h ⊢
      exact (same_iff_of_point h).1 k
  | int n =>
      rw [same_iff_of_point rfl] at h ⊢
      exact (same_iff_of_point h).1 k
  | float d number =>
      rw [same] at h
      obtain ⟨p, hd, hp⟩ := sameNumber_iff.1 h
      exact (same_iff_of_point hd).2 ((same_iff_of_point hp).1 k)
  | text s => exact same_text_iff.1 h ▸ k
  | list xs regular ih =>
      obtain ⟨ys, rfl, hxy⟩ := same_list_iff.1 h
      obtain ⟨zs, rfl, hyz⟩ := same_list_iff.1 k
      obtain ⟨hlength, hsame⟩ := sameItems_iff.1 hxy
      obtain ⟨hlength', hsame'⟩ := sameItems_iff.1 hyz
      refine same_list_iff.2 ⟨zs, rfl, sameItems_iff.2 ⟨hlength.trans hlength', fun i hx hz => ?_⟩⟩
      have hy : i < ys.length := hlength ▸ hx
      exact ih _ (List.getElem_mem hx) (hsame i hx hy) (hsame' i hy hz)
  | mapping xs distinct regular ih =>
      obtain ⟨ys, rfl, hxy⟩ := same_mapping_iff.1 h
      obtain ⟨zs, rfl, hyz⟩ := same_mapping_iff.1 k
      obtain ⟨hlength, hsame⟩ := same_mappings_iff.1 hxy
      refine same_mappings_iff.2
        ⟨hlength.trans (same_mappings_iff.1 hyz).1, fun entry hentry => ?_⟩
      obtain ⟨y, hy, hentryy⟩ := hsame entry hentry
      obtain ⟨z, hz, hyz'⟩ := get?_of_same_mapping hyz hy
      exact ⟨z, hz, ih entry hentry hentryy hyz'⟩

end TaskQuery.Value
