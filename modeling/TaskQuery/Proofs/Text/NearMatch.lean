import Mathlib.Data.List.Basic
import TaskQuery.Proofs.Text.EditDistance
/-!
# Near matches

Two searches look for the candidates near a word: one keeps the best candidate while it goes
through them, the other sorts all that are near enough. Both are described by the places of
the candidates, and the first match of the second search is the answer of the first.
-/

namespace TaskQuery.Text

variable {word found other : String} {candidates : List String} {threshold : Int}

/-! ## The nearest candidate -/

/-- The earliest of some candidates for which a distance is least. -/
def IsFirstNearest (distance : String → Nat) (candidates : List String) (found : String) : Prop :=
  ∃ front behind, candidates = front ++ found :: behind ∧
    (∀ c ∈ front, distance found < distance c) ∧ ∀ c ∈ behind, distance found ≤ distance c

namespace IsFirstNearest

variable {distance : String → Nat}

theorem mem (h : IsFirstNearest distance candidates found) : found ∈ candidates := by
  obtain ⟨front, behind, rfl, -, -⟩ := h
  exact List.mem_append_right _ List.mem_cons_self

theorem le (h : IsFirstNearest distance candidates found) (hc : other ∈ candidates) :
    distance found ≤ distance other := by
  obtain ⟨front, behind, rfl, hfront, hbehind⟩ := h
  rcases List.mem_append.1 hc with hc | hc
  · exact (hfront other hc).le
  · rcases List.mem_cons.1 hc with rfl | hc
    · exact le_rfl
    · exact hbehind other hc

theorem unique (h : IsFirstNearest distance candidates found)
    (k : IsFirstNearest distance candidates other) : found = other := by
  have heq : distance found = distance other := le_antisymm (h.le k.mem) (k.le h.mem)
  obtain ⟨front, behind, rfl, hfront, -⟩ := h
  obtain ⟨front', behind', hsplit, hfront', -⟩ := k
  -- Neither can stand in front of the other: it would be farther away.
  rcases List.append_eq_append_iff.1 hsplit with ⟨between, rfl, hrest⟩ | ⟨between, rfl, hrest⟩
  · cases between with
    | nil => exact (List.cons.inj hrest).1
    | cons c rest =>
        obtain ⟨rfl, -⟩ := List.cons.inj hrest
        exact absurd (hfront' found (by simp)) (by omega)
  · cases between with
    | nil => exact (List.cons.inj hrest).1.symm
    | cons c rest =>
        obtain ⟨rfl, -⟩ := List.cons.inj hrest
        exact absurd (hfront other (by simp)) (by omega)

theorem behind (h : IsFirstNearest distance candidates found)
    (hother : distance found < distance other) :
    IsFirstNearest distance (other :: candidates) found := by
  obtain ⟨front, behind, rfl, hfront, hbehind⟩ := h
  exact ⟨other :: front, behind, rfl, List.forall_mem_cons.2 ⟨hother, hfront⟩, hbehind⟩

end IsFirstNearest

def keepNearer (word : String) (best : Option String × Int) (candidate : String) :
    Option String × Int :=
  let distance : Int := editDistance word candidate
  if distance < best.2 then (some candidate, distance) else best

theorem closest?_eq (word : String) (candidates : List String) (threshold : Int) :
    closest? word candidates threshold =
      (candidates.foldl (keepNearer word) (none, threshold + 1)).1 :=
  rfl

/-- Either no candidate is nearer than the best so far, or the search ends with the first of
the nearest. -/
theorem keepNearer_cases (word : String) (candidates : List String)
    (best : Option String × Int) :
    (candidates.foldl (keepNearer word) best = best ∧
        ∀ c ∈ candidates, best.2 ≤ editDistance word c) ∨
      ∃ found, candidates.foldl (keepNearer word) best =
          (some found, (editDistance word found : Int)) ∧
        editDistance word found < best.2 ∧
          IsFirstNearest (editDistance word) candidates found := by
  induction candidates generalizing best with
  | nil => exact .inl ⟨rfl, fun c hc => absurd hc List.not_mem_nil⟩
  | cons c rest ih =>
      rw [List.foldl_cons]
      by_cases hc : (editDistance word c : Int) < best.2
      · have hkeep : keepNearer word best c = (some c, (editDistance word c : Int)) := if_pos hc
        rw [hkeep]
        rcases ih (some c, (editDistance word c : Int)) with
          ⟨hfold, hrest⟩ | ⟨found, hfold, hlt, hfirst⟩
        · refine .inr ⟨c, hfold, hc, [], rest, rfl, by simp, ?_⟩
          intro d hd
          exact Int.ofNat_le.1 (hrest d hd)
        · dsimp only at hlt
          exact .inr ⟨found, hfold, by omega, hfirst.behind (Int.ofNat_lt.1 hlt)⟩
      · have hkeep : keepNearer word best c = best := if_neg hc
        rw [hkeep]
        rcases ih best with ⟨hfold, hrest⟩ | ⟨found, hfold, hlt, hfirst⟩
        · refine .inl ⟨hfold, ?_⟩
          rw [List.forall_mem_cons]
          exact ⟨not_lt.1 hc, hrest⟩
        · exact .inr ⟨found, hfold, hlt, hfirst.behind (by omega)⟩

theorem closest?_eq_none_iff : closest? word candidates threshold = none ↔
    ∀ c ∈ candidates, threshold < editDistance word c := by
  rw [closest?_eq]
  rcases keepNearer_cases word candidates (none, threshold + 1) with
    ⟨hfold, hrest⟩ | ⟨found, hfold, hlt, hfirst⟩
  · rw [hfold]
    refine iff_of_true rfl fun c hc => ?_
    have hle := hrest c hc
    dsimp only at hle
    omega
  · rw [hfold]
    dsimp only at hlt
    refine iff_of_false (Option.some_ne_none found) fun h => ?_
    have hfar := h found hfirst.mem
    omega

theorem closest?_eq_some_iff : closest? word candidates threshold = some found ↔
    (editDistance word found : Int) ≤ threshold ∧
      IsFirstNearest (editDistance word) candidates found := by
  constructor
  · intro h
    rw [closest?_eq] at h
    rcases keepNearer_cases word candidates (none, threshold + 1) with
      ⟨hfold, -⟩ | ⟨nearest, hfold, hlt, hfirst⟩
    · rw [hfold] at h
      exact absurd h.symm (Option.some_ne_none found)
    · rw [hfold] at h
      obtain rfl := Option.some.inj h
      dsimp only at hlt
      exact ⟨by omega, hfirst⟩
  · rintro ⟨hnear, hfirst⟩
    rw [closest?_eq]
    rcases keepNearer_cases word candidates (none, threshold + 1) with
      ⟨-, hrest⟩ | ⟨nearest, hfold, -, hnearest⟩
    · have hfar := hrest found hfirst.mem
      dsimp only at hfar
      omega
    · rw [hfold, hnearest.unique hfirst]

/-- Two texts are turned into each other by a number of edits and by no fewer. -/
def Apart (a b : String) (n : Nat) : Prop :=
  IsLeast {k | Script k a.toList b.toList} n

theorem apart_iff {a b : String} {n : Nat} : Apart a b n ↔ editDistance a b = n := by
  constructor
  · exact fun h => (isLeast_editDistance a b).unique h
  · rintro rfl
    exact isLeast_editDistance a b

/-- The earliest of the candidates that the fewest edits turn a word into, if a number of
edits is enough. -/
def Suggested (word : String) (candidates : List String) (threshold : Int) (found : String) :
    Prop :=
  ∃ front behind n, candidates = front ++ found :: behind ∧
    Apart word found n ∧ (n : Int) ≤ threshold ∧
      (∀ c ∈ front, ∀ m, Apart word c m → n < m) ∧ ∀ c ∈ behind, ∀ m, Apart word c m → n ≤ m

theorem closest?_eq_some_iff_suggested : closest? word candidates threshold = some found ↔
    Suggested word candidates threshold found := by
  rw [closest?_eq_some_iff]
  constructor
  · rintro ⟨hnear, front, behind, rfl, hfront, hbehind⟩
    refine ⟨front, behind, editDistance word found, rfl, isLeast_editDistance word found, hnear,
      ?_, ?_⟩
    · intro c hc m hm
      rw [← apart_iff.1 hm]
      exact hfront c hc
    · intro c hc m hm
      rw [← apart_iff.1 hm]
      exact hbehind c hc
  · rintro ⟨front, behind, n, rfl, hn, hnear, hfront, hbehind⟩
    obtain rfl := apart_iff.1 hn
    exact ⟨hnear, front, behind, rfl, fun c hc => hfront c hc _ (isLeast_editDistance word c),
      fun c hc => hbehind c hc _ (isLeast_editDistance word c)⟩

theorem closest?_eq_none_iff_apart : closest? word candidates threshold = none ↔
    ∀ c ∈ candidates, ∀ n, Apart word c n → threshold < n := by
  rw [closest?_eq_none_iff]
  constructor
  · intro h c hc n hn
    rw [← apart_iff.1 hn]
    exact h c hc
  · exact fun h c hc => h c hc _ (isLeast_editDistance word c)

/-! ## The ranking -/

def distanceAt (word : String) (candidates : List String) (i : Nat) : Nat :=
  caselessDistance word (candidates.getD i "")

/-- The places of all candidates that are near enough to a word, each once: by distance, and
those of one distance in their order. -/
structure Ranking (word : String) (candidates : List String) (threshold : Int)
    (places : List Nat) : Prop where
  near : ∀ i, i ∈ places ↔
    ∃ c, candidates[i]? = some c ∧ (caselessDistance word c : Int) ≤ threshold
  ordered : places.Pairwise fun i j => ∀ c d, candidates[i]? = some c → candidates[j]? = some d →
    caselessDistance word c < caselessDistance word d ∨
      caselessDistance word c = caselessDistance word d ∧ i < j

def nearPlaces (word : String) (candidates : List String) (threshold : Int) : List Nat :=
  (List.range candidates.length).filter fun i => (distanceAt word candidates i : Int) ≤ threshold

def rankedPlaces (word : String) (candidates : List String) (threshold : Int) : List Nat :=
  (nearPlaces word candidates threshold).mergeSort fun i j =>
    distanceAt word candidates i ≤ distanceAt word candidates j

variable {i j : Nat} {c : String}

theorem distanceAt_eq (h : candidates[i]? = some c) :
    distanceAt word candidates i = caselessDistance word c := by
  rw [distanceAt, List.getD_eq_getElem?_getD, h, Option.getD_some]

theorem mem_nearPlaces : i ∈ nearPlaces word candidates threshold ↔
    ∃ c, candidates[i]? = some c ∧ (caselessDistance word c : Int) ≤ threshold := by
  rw [nearPlaces, List.mem_filter, List.mem_range, decide_eq_true_eq]
  constructor
  · rintro ⟨hi, hnear⟩
    have hc := List.getElem?_eq_getElem hi
    exact ⟨candidates[i], hc, by rwa [distanceAt_eq hc] at hnear⟩
  · rintro ⟨c, hc, hnear⟩
    exact ⟨(List.getElem?_eq_some_iff.1 hc).1, by rwa [distanceAt_eq hc]⟩

section Sorting

variable {α : Type} (measure : α → Nat)

theorem measure_trans (a b c : α) (h : decide (measure a ≤ measure b) = true)
    (k : decide (measure b ≤ measure c) = true) : decide (measure a ≤ measure c) = true := by
  simp only [decide_eq_true_eq] at h k ⊢
  exact Nat.le_trans h k

theorem measure_total (a b : α) :
    (decide (measure a ≤ measure b) || decide (measure b ≤ measure a)) = true := by
  simp only [Bool.or_eq_true, decide_eq_true_eq]
  exact Nat.le_total (measure a) (measure b)

theorem filter_mergeSort (xs : List α) (m : Nat) :
    (xs.mergeSort fun a b => measure a ≤ measure b).filter (fun a => measure a = m) =
      xs.filter fun a => measure a = m := by
  have hperm := (List.mergeSort_perm xs fun a b => decide (measure a ≤ measure b)).filter
    fun a => decide (measure a = m)
  have hclass : (xs.filter fun a => measure a = m).Pairwise fun a b =>
      decide (measure a ≤ measure b) = true := by
    rw [List.pairwise_iff_forall_sublist]
    intro a b hsub
    have ha := of_decide_eq_true (List.mem_filter.1 (hsub.subset (by simp : a ∈ [a, b]))).2
    have hb := of_decide_eq_true (List.mem_filter.1 (hsub.subset (by simp : b ∈ [a, b]))).2
    exact decide_eq_true (by omega)
  have hkept := (List.sublist_mergeSort (measure_trans measure) (measure_total measure) hclass
    List.filter_sublist).filter fun a => decide (measure a = m)
  rw [List.filter_filter] at hkept
  simp only [Bool.and_self] at hkept
  exact (hkept.eq_of_length hperm.length_eq.symm).symm

theorem pairwise_mergeSort_measure {r : α → α → Prop} {xs : List α} (h : xs.Pairwise r) :
    (xs.mergeSort fun a b => measure a ≤ measure b).Pairwise fun a b =>
      measure a < measure b ∨ measure a = measure b ∧ r a b := by
  have hmeasure :=
    List.pairwise_mergeSort (measure_trans measure) (measure_total measure) xs
  rw [List.pairwise_iff_forall_sublist] at h hmeasure ⊢
  intro a b hsub
  have hle : measure a ≤ measure b := of_decide_eq_true (hmeasure hsub)
  rcases Nat.lt_or_eq_of_le hle with hlt | heq
  · exact .inl hlt
  · refine .inr ⟨heq, h ?_⟩
    -- Both are among the elements of one measure, which sorting does not move.
    have hclass := hsub.filter fun c => decide (measure c = measure b)
    rw [filter_mergeSort] at hclass
    have hboth : [a, b].filter (fun c => decide (measure c = measure b)) = [a, b] := by
      simp [heq]
    rw [hboth] at hclass
    exact hclass.trans List.filter_sublist

end Sorting

/-! ### The places of the near candidates -/

theorem ranking_rankedPlaces (word : String) (candidates : List String) (threshold : Int) :
    Ranking word candidates threshold (rankedPlaces word candidates threshold) where
  near i := by
    rw [rankedPlaces, List.mem_mergeSort, mem_nearPlaces]
  ordered := by
    have hplaces : (nearPlaces word candidates threshold).Pairwise (· < ·) :=
      List.pairwise_lt_range.sublist List.filter_sublist
    have hsorted := pairwise_mergeSort_measure (distanceAt word candidates) hplaces
    rw [← rankedPlaces] at hsorted
    refine hsorted.imp fun {i j} hij c d hc hd => ?_
    rwa [distanceAt_eq hc, distanceAt_eq hd] at hij

theorem map_getD_range (candidates : List String) :
    (List.range candidates.length).map (fun i => candidates.getD i "") = candidates := by
  apply List.ext_getElem
  · simp
  · intro i hi hi'
    simp [List.getD_eq_getElem?_getD, List.getElem?_eq_getElem hi']

theorem rankedMatches_eq (word : String) (candidates : List String) (threshold : Int) :
    rankedMatches word candidates threshold =
      (rankedPlaces word candidates threshold).map fun i => candidates.getD i "" := by
  let entry (i : Nat) : Nat × String := (distanceAt word candidates i, candidates.getD i "")
  have hscored : candidates.map (fun c => (caselessDistance word c, c)) =
      (List.range candidates.length).map entry := by
    conv_lhs => rw [← map_getD_range candidates, List.map_map]
    rfl
  have hnear : ((List.range candidates.length).map entry).filter
      (fun e => (e.1 : Int) ≤ threshold) = (nearPlaces word candidates threshold).map entry := by
    rw [List.filter_map, nearPlaces]
    simp only [Function.comp_def, entry]
  have hsorted : ((nearPlaces word candidates threshold).map entry).mergeSort
      (fun a b => a.1 ≤ b.1) = (rankedPlaces word candidates threshold).map entry := by
    rw [rankedPlaces, List.map_mergeSort]
    intro i _ j _
    simp only [entry]
  unfold rankedMatches
  dsimp only
  rw [hscored, hnear, hsorted, List.map_map]
  simp only [Function.comp_def, entry]

theorem closestMatches_natCast (word : String) (candidates : List String) (threshold : Int)
    (limit : Nat) : closestMatches word candidates threshold limit =
      (rankedMatches word candidates threshold).take limit := by
  unfold closestMatches takeLimit
  rw [if_neg (by omega), Int.toNat_natCast]

theorem map_some_closestMatches (word : String) (candidates : List String) (threshold : Int)
    (limit : Nat) : (closestMatches word candidates threshold limit).map some =
      ((rankedPlaces word candidates threshold).take limit).map fun i => candidates[i]? := by
  rw [closestMatches_natCast, rankedMatches_eq, ← List.map_take, List.map_map]
  apply List.map_congr_left
  intro i hi
  obtain ⟨c, hc, -⟩ := ((ranking_rankedPlaces word candidates threshold).near i).1
    (List.mem_of_mem_take hi)
  simp [List.getD_eq_getElem?_getD, hc]

/-! ## The first match -/

def firstMatch? (word : String) (candidates : List String) (threshold : Int) : Option String :=
  candidates.find? fun c =>
    closest? (lower word) (candidates.map lower) threshold = some (lower c)

theorem firstNearest_place {front behind : List String}
    (h : candidates = front ++ c :: behind)
    (hfront : ∀ d ∈ front, caselessDistance word c < caselessDistance word d)
    (hbehind : ∀ d ∈ behind, caselessDistance word c ≤ caselessDistance word d)
    (hnear : (caselessDistance word c : Int) ≤ threshold) :
    (rankedPlaces word candidates threshold).head? = some front.length := by
  have hranking := ranking_rankedPlaces word candidates threshold
  have hc : candidates[front.length]? = some c := by
    rw [h]
    simp
  have hmem : front.length ∈ rankedPlaces word candidates threshold :=
    (hranking.near front.length).2 ⟨c, hc, hnear⟩
  cases hplaces : rankedPlaces word candidates threshold with
  | nil =>
      rw [hplaces] at hmem
      exact absurd hmem List.not_mem_nil
  | cons i rest =>
      rw [hplaces] at hranking hmem
      rw [List.head?_cons, Option.some.injEq]
      rcases List.mem_cons.1 hmem with heq | hrest
      · exact heq.symm
      · -- Then the place `i` would come before it in the ranking.
        exfalso
        obtain ⟨d, hd, -⟩ := (hranking.near i).1 List.mem_cons_self
        have hbefore := List.rel_of_pairwise_cons hranking.ordered hrest d c hd hc
        rcases Nat.lt_trichotomy i front.length with hlt | rfl | hgt
        · rw [h, List.getElem?_append_left hlt] at hd
          have := hfront d (List.mem_of_getElem? hd)
          omega
        · obtain rfl := Option.some.inj (hd.symm.trans hc)
          omega
        · rw [h, List.getElem?_append_right (Nat.le_of_lt hgt)] at hd
          obtain ⟨k, hk⟩ : ∃ k, i - front.length = k + 1 := ⟨i - front.length - 1, by omega⟩
          rw [hk, List.getElem?_cons_succ] at hd
          have := hbehind d (List.mem_of_getElem? hd)
          omega

theorem head?_rankedMatches (word : String) (candidates : List String) (threshold : Int) :
    (rankedMatches word candidates threshold).head? = firstMatch? word candidates threshold := by
  unfold firstMatch?
  cases hclosest : closest? (lower word) (candidates.map lower) threshold with
  | none =>
      have hfar := closest?_eq_none_iff.1 hclosest
      have hnone : rankedPlaces word candidates threshold = [] := by
        rw [List.eq_nil_iff_forall_not_mem]
        intro i hi
        obtain ⟨c, hc, hnear⟩ := ((ranking_rankedPlaces word candidates threshold).near i).1 hi
        have := hfar (lower c) (List.mem_map_of_mem (List.mem_of_getElem? hc))
        unfold caselessDistance at hnear
        omega
      rw [rankedMatches_eq, hnone]
      exact (List.find?_eq_none.2 fun c _ => by simp).symm
  | some nearest =>
      obtain ⟨hnear, front, behind, hsplit, hfront, hbehind⟩ := closest?_eq_some_iff.1 hclosest
      obtain ⟨before, rest, rfl, rfl, hrest⟩ := List.map_eq_append_iff.1 hsplit
      obtain ⟨c, after, rfl, rfl, rfl⟩ := List.map_eq_cons_iff.1 hrest
      rw [List.forall_mem_map] at hfront hbehind
      rw [rankedMatches_eq, List.head?_map, firstNearest_place rfl hfront hbehind hnear,
        List.find?_append]
      have hnone : before.find? (fun d => decide (some (lower c) = some (lower d))) = none := by
        rw [List.find?_eq_none]
        intro d hd heq
        have hlt := hfront d hd
        rw [← Option.some.inj (of_decide_eq_true heq)] at hlt
        omega
      rw [hnone]
      simp [List.getD_eq_getElem?_getD]

theorem rankedMatches_eq_nil_iff : rankedMatches word candidates threshold = [] ↔
    closest? (lower word) (candidates.map lower) threshold = none := by
  rw [← List.head?_eq_none_iff, head?_rankedMatches, firstMatch?, List.find?_eq_none]
  constructor
  · intro h
    cases hclosest : closest? (lower word) (candidates.map lower) threshold with
    | none => rfl
    | some nearest =>
        obtain ⟨c, hc, rfl⟩ := List.mem_map.1 (closest?_eq_some_iff.1 hclosest).2.mem
        exact absurd (decide_eq_true hclosest) (h c hc)
  · intro h c _
    simp [h]

/-- The matches of a word are the candidates within the threshold, each occurrence once, by
distance and then by place, as far as the limit goes. A greater limit adds matches at the
end. The first match is the earliest candidate whose lower case is the closest one to the word
in lower case, and there is none exactly if there is no closest one. -/
theorem closestMatches_ranks (word : String) (candidates : List String) (threshold : Int) :
    (∃ places, Ranking word candidates threshold places ∧ places.Nodup ∧
        ∀ limit : Nat, (closestMatches word candidates threshold limit).map some =
          (places.take limit).map fun i => candidates[i]?) ∧
      (∀ limit greater : Nat, limit ≤ greater →
        closestMatches word candidates threshold limit <+:
          closestMatches word candidates threshold greater) ∧
      ∀ limit : Nat, 1 ≤ limit →
        (closestMatches word candidates threshold limit).head? =
            firstMatch? word candidates threshold ∧
          (closestMatches word candidates threshold limit = [] ↔
            closest? (lower word) (candidates.map lower) threshold = none) := by
  have hranking := ranking_rankedPlaces word candidates threshold
  have hnodup : (rankedPlaces word candidates threshold).Nodup :=
    (List.mergeSort_perm _ _).nodup_iff.2 (List.nodup_range.sublist List.filter_sublist)
  refine ⟨⟨_, hranking, hnodup, map_some_closestMatches word candidates threshold⟩, ?_, ?_⟩
  · intro limit greater hle
    rw [closestMatches_natCast, closestMatches_natCast]
    exact List.take_prefix_take_left hle
  · intro limit hpos
    obtain ⟨n, rfl⟩ : ∃ n, limit = n + 1 := ⟨limit - 1, by omega⟩
    rw [closestMatches_natCast, ← rankedMatches_eq_nil_iff, ← head?_rankedMatches]
    cases rankedMatches word candidates threshold with
    | nil => exact ⟨rfl, Iff.rfl⟩
    | cons m rest => exact ⟨rfl, by simp⟩

end TaskQuery.Text
