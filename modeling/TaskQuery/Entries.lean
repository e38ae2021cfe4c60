/-!
# Entries in order of insertion

A mapping as the list of its entries, oldest first. Putting a key that is there already
replaces its value in place.
-/

namespace TaskQuery

/-- Keys with their values, in order of insertion. -/
abbrev Entries (κ α : Type) := List (κ × α)

namespace Entries

variable {κ α : Type} [DecidableEq κ]

def get? : Entries κ α → κ → Option α
  | [], _ => none
  | (k, v) :: rest, key => if k = key then some v else get? rest key

def has (entries : Entries κ α) (key : κ) : Bool :=
  (get? entries key).isSome

/-- Sets the value of a key: in place if it is there, else at the end. -/
def put : Entries κ α → κ → α → Entries κ α
  | [], key, value => [(key, value)]
  | (k, v) :: rest, key, value =>
      if k = key then (k, value) :: rest else (k, v) :: put rest key value

def ofList (pairs : List (κ × α)) : Entries κ α :=
  pairs.foldl (fun entries pair => put entries pair.1 pair.2) []

def keys (entries : Entries κ α) : List κ :=
  entries.map Prod.fst

@[simp] theorem get?_nil (key : κ) : get? ([] : Entries κ α) key = none := rfl

theorem get?_put (entries : Entries κ α) (key other : κ) (value : α) :
    get? (put entries key value) other =
      if key = other then some value else get? entries other := by
  induction entries with
  | nil => simp [put, get?]
  | cons entry rest ih => grind [put, get?]

theorem get?_eq_none_iff (entries : Entries κ α) (key : κ) :
    get? entries key = none ↔ key ∉ keys entries := by
  induction entries with
  | nil => simp [keys]
  | cons entry rest ih =>
      obtain ⟨k, v⟩ := entry
      by_cases h : k = key
      · simp [get?, keys, h]
      · simp only [get?, h, if_false, ih, keys, List.map_cons, List.mem_cons, not_or]
        exact ⟨fun hr => ⟨fun he => h he.symm, hr⟩, And.right⟩

theorem keys_put (entries : Entries κ α) (key : κ) (value : α) :
    keys (put entries key value) =
      if key ∈ keys entries then keys entries else keys entries ++ [key] := by
  induction entries with
  | nil => simp [put, keys]
  | cons entry rest ih => grind [put, keys]

end Entries

end TaskQuery
