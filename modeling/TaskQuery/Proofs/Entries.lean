import Mathlib.Data.List.Induction
import TaskQuery.Entries
/-!
# Entries with distinct keys

Putting a value never doubles a key, and where no key is doubled an entry is there exactly
if its key has its value.
-/

namespace TaskQuery.Entries

variable {κ α : Type} [DecidableEq κ] {entries : Entries κ α} {key : κ} {value : α}

theorem nodup_keys_put (h : (keys entries).Nodup) : (keys (put entries key value)).Nodup := by
  rw [keys_put]
  split
  · exact h
  · rename_i hk
    rw [List.nodup_append]
    refine ⟨h, by simp, ?_⟩
    rintro a ha b hb rfl
    exact hk (List.mem_singleton.1 hb ▸ ha)

theorem mem_of_get? (h : get? entries key = some value) : (key, value) ∈ entries := by
  induction entries with
  | nil => simp at h
  | cons entry rest ih =>
      obtain ⟨k, v⟩ := entry
      rw [get?] at h
      split at h
      · rename_i hk
        rw [hk, Option.some.inj h]
        exact List.mem_cons_self
      · exact List.mem_cons_of_mem _ (ih h)

theorem get?_of_mem (hd : (keys entries).Nodup) (h : (key, value) ∈ entries) :
    get? entries key = some value := by
  induction entries with
  | nil => simp at h
  | cons entry rest ih =>
      obtain ⟨k, v⟩ := entry
      obtain ⟨hk, hr⟩ := List.nodup_cons.1 hd
      rcases List.mem_cons.1 h with heq | hmem
      · obtain ⟨rfl, rfl⟩ := Prod.mk.inj heq
        simp [get?]
      · have hne : k ≠ key := by
          rintro rfl
          exact hk (List.mem_map.2 ⟨(k, value), hmem, rfl⟩)
        rw [get?, if_neg hne]
        exact ih hr hmem

theorem mem_keys_iff : key ∈ keys entries ↔ ∃ value, get? entries key = some value := by
  constructor
  · intro hk
    cases h : get? entries key with
    | none => exact absurd hk ((get?_eq_none_iff entries key).1 h)
    | some value => exact ⟨value, rfl⟩
  · rintro ⟨value, h⟩
    exact List.mem_map.2 ⟨(key, value), mem_of_get? h, rfl⟩

theorem mem_put {entry : κ × α} (h : entry ∈ put entries key value) :
    entry ∈ entries ∨ entry = (key, value) := by
  induction entries with
  | nil => exact .inr (List.mem_singleton.1 h)
  | cons first rest ih =>
      obtain ⟨k, v⟩ := first
      rw [put] at h
      split at h
      · rename_i hk
        rcases List.mem_cons.1 h with rfl | hrest
        · exact .inr (by rw [hk])
        · exact .inl (List.mem_cons_of_mem _ hrest)
      · rcases List.mem_cons.1 h with rfl | hrest
        · exact .inl List.mem_cons_self
        · exact (ih hrest).imp_left (List.mem_cons_of_mem _)

/-! ## The last value of a key -/

theorem ofList_concat (pairs : List (κ × α)) (key : κ) (value : α) :
    ofList (pairs ++ [(key, value)]) = put (ofList pairs) key value := by
  rw [ofList, List.foldl_append]
  rfl

theorem get?_ofList (pairs : List (κ × α)) (key : κ) :
    get? (ofList pairs) key = get? pairs.reverse key := by
  induction pairs using List.reverseRecOn with
  | nil => rfl
  | append_singleton pairs pair ih =>
      obtain ⟨k, v⟩ := pair
      rw [ofList_concat, get?_put, ih, List.reverse_append, List.reverse_singleton,
        List.singleton_append, get?]

theorem nodup_keys_ofList (pairs : List (κ × α)) : (keys (ofList pairs)).Nodup := by
  induction pairs using List.reverseRecOn with
  | nil => exact List.nodup_nil
  | append_singleton pairs pair ih =>
      rw [ofList_concat]
      exact nodup_keys_put ih

end TaskQuery.Entries
