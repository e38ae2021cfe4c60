import TaskQuery.Proofs.Json.Documents
import TaskQuery.Text.Line
/-!
# Line ends of documents

A document stays a document of the same tree when all its line ends are made one: they stand
between its tokens, and none of its strings has one.
-/

namespace TaskQuery

variable {a b cs content : List Char} {c : Char}

namespace Text

theorem plainLineEnds_of_none (h : '\r' ∉ cs) : plainLineEnds cs = cs := by
  fun_induction plainLineEnds cs with
  | case1 => rfl
  | case2 => exact absurd List.mem_cons_self h
  | case3 => exact absurd List.mem_cons_self h
  | case4 c rest _ _ ih => rw [ih fun hr => h (List.mem_cons_of_mem c hr)]

theorem plainLineEnds_cons (hc : c ≠ '\r') (rest : List Char) :
    plainLineEnds (c :: rest) = c :: plainLineEnds rest := by
  rw [plainLineEnds]
  · rintro tail rfl
    exact absurd rfl hc
  · exact hc

theorem getLast?_cons_of_some {c d : Char} (hd : cs.getLast? = some d) :
    (c :: cs).getLast? = some d := by
  rw [List.getLast?_cons, hd]
  rfl

/-- Where no line end stands across the place, the parts of a text can be taken alone. -/
theorem plainLineEnds_append (h : a.getLast? = some '\r' → b.head? ≠ some '\n') :
    plainLineEnds (a ++ b) = plainLineEnds a ++ plainLineEnds b := by
  fun_induction plainLineEnds a with
  | case1 => rfl
  | case2 rest ih =>
      have hrest := ih fun hlast => h (getLast?_cons_of_some (getLast?_cons_of_some hlast))
      rw [List.cons_append, List.cons_append, plainLineEnds, hrest]
      rfl
  | case3 rest hrest ih =>
      rw [List.cons_append, plainLineEnds, ih fun hlast => h (getLast?_cons_of_some hlast)]
      · rfl
      · intro tail heq
        cases rest with
        | nil => exact h rfl (congrArg List.head? heq)
        | cons c others => exact hrest others (congrArg (· :: others) (List.cons.inj heq).1)
  | case4 c rest _ hcr ih =>
      rw [List.cons_append, plainLineEnds_cons hcr, ih fun hlast => h (getLast?_cons_of_some hlast)]
      rfl

theorem plainLineEnds_append_cons (hc : c ≠ '\n' ∧ c ≠ '\r') (a b : List Char) :
    plainLineEnds (a ++ c :: b) = plainLineEnds a ++ c :: plainLineEnds b := by
  have hhead : (c :: b).head? ≠ some '\n' := fun h => hc.1 (Option.some.inj h)
  rw [plainLineEnds_append fun _ => hhead, plainLineEnds_cons hc.2]

theorem mem_plainLineEnds (h : c ∈ plainLineEnds cs) : c = '\n' ∨ c ∈ cs := by
  fun_induction plainLineEnds cs with
  | case1 => exact .inr h
  | case2 rest ih =>
      rcases List.mem_cons.1 h with rfl | hrest
      · exact .inl rfl
      · exact (ih hrest).imp_right fun hc => by simp [hc]
  | case3 rest _ ih =>
      rcases List.mem_cons.1 h with rfl | hrest
      · exact .inl rfl
      · exact (ih hrest).imp_right (List.mem_cons_of_mem _)
  | case4 d rest _ _ ih =>
      rcases List.mem_cons.1 h with rfl | hrest
      · exact .inr List.mem_cons_self
      · exact (ih hrest).imp_right (List.mem_cons_of_mem _)

end Text

namespace Json

open Text

theorem IsBlanks.plainLineEnds (h : IsBlanks cs) : IsBlanks (plainLineEnds cs) := by
  intro c hc
  rcases mem_plainLineEnds hc with rfl | hcs
  · rfl
  · exact h c hcs

theorem ne_return_of_hexValue? {n : Nat} (h : hexValue? c = some n) : c ≠ '\r' := by
  have hreturn : hexValue? '\r' = none := by decide
  rintro rfl
  rw [hreturn] at h
  cases h

theorem IsUnit.no_return {ds : List Char} {n : Nat} (h : IsUnit ds n) : ∀ c ∈ ds, c ≠ '\r' := by
  cases h with
  | digits first second third fourth =>
      simp only [List.forall_mem_cons]
      exact ⟨ne_return_of_hexValue? first, ne_return_of_hexValue? second,
        ne_return_of_hexValue? third, ne_return_of_hexValue? fourth, nofun⟩

theorem SpellsChars.no_return (h : SpellsChars content cs) : ∀ c ∈ cs, c ≠ '\r' := by
  have hmark : ∀ {cs : List Char}, (∀ c ∈ cs, c ≠ '\r') →
      ∀ c ∈ '\\' :: 'u' :: cs, c ≠ '\r' :=
    fun h => List.forall_mem_cons.2 ⟨by decide, List.forall_mem_cons.2 ⟨by decide, h⟩⟩
  induction h with
  | nil => exact nofun
  | plain visible quote backslash rest ih =>
      refine List.forall_mem_cons.2 ⟨?_, ih⟩
      rintro rfl
      exact absurd visible (by decide)
  | @short mark c content cs escape rest ih =>
      have hshort : simpleEscape? '\r' = none := by decide
      refine List.forall_mem_cons.2 ⟨by decide, List.forall_mem_cons.2 ⟨?_, ih⟩⟩
      rintro rfl
      rw [hshort] at escape
      cases escape
  | unit unit whole rest ih => exact hmark (List.forall_mem_append.2 ⟨unit.no_return, ih⟩)
  | pair first second halves rest ih =>
      exact hmark (List.forall_mem_append.2
        ⟨first.no_return, hmark (List.forall_mem_append.2 ⟨second.no_return, ih⟩)⟩)
  | half unit half alone rest ih => exact hmark (List.forall_mem_append.2 ⟨unit.no_return, ih⟩)

theorem IsNumber.no_return (h : IsNumber cs) : ∀ c ∈ cs, c ≠ '\r' := by
  rintro c hc rfl
  exact absurd (h.isNumberChar '\r' hc) (by decide)

theorem plainLineEnds_of_no_return (h : ∀ c ∈ cs, c ≠ '\r') : plainLineEnds cs = cs :=
  plainLineEnds_of_none fun hr => h _ hr rfl

theorem Spells.getLast?_ne {t : Tree} (h : Spells (.value t) cs) : cs.getLast? ≠ some '\r' := by
  have hclosing : ∀ (c d : Char) (inner : List Char), d ≠ '\r' →
      (c :: (inner ++ [d])).getLast? ≠ some '\r' := by
    intro c d inner hd
    rw [← List.cons_append, List.getLast?_concat]
    exact fun h => hd (Option.some.inj h)
  cases h with
  | null => decide
  | true => decide
  | false => decide
  | number number => exact fun h => number.no_return _ (List.mem_of_getLast? h) rfl
  | string chars => exact hclosing _ _ _ (by decide)
  | emptyArray blank => exact hclosing _ _ _ (by decide)
  | array items => exact hclosing _ _ _ (by decide)
  | emptyObject blank => exact hclosing _ _ _ (by decide)
  | object members => exact hclosing _ _ _ (by decide)

theorem Spells.head?_ne {t : Tree} (h : Spells (.value t) cs) (rest : List Char) :
    (cs ++ rest).head? ≠ some '\n' := by
  have hreads : Reads none (.value t) cs := h.reads
  cases hreads with
  | value opens reads =>
      obtain ⟨c, tail, rfl, hblank, -⟩ := opens
      intro hhead
      rw [Option.some.inj hhead] at hblank
      cases hblank

theorem Spells.plainLineEnds {p : Part} (h : Spells p cs) : Spells p (plainLineEnds cs) := by
  induction h with
  | null => exact .null
  | true => exact .true
  | false => exact .false
  | number number =>
      rw [plainLineEnds_of_no_return number.no_return]
      exact .number number
  | string chars =>
      rw [plainLineEnds_cons (by decide), plainLineEnds_append_cons (by decide),
        plainLineEnds_of_no_return chars.no_return]
      exact .string chars
  | emptyArray blank =>
      rw [plainLineEnds_cons (by decide), plainLineEnds_append_cons (by decide)]
      exact .emptyArray blank.plainLineEnds
  | array items ih =>
      rw [plainLineEnds_cons (by decide), plainLineEnds_append_cons (by decide)]
      exact .array ih
  | emptyObject blank =>
      rw [plainLineEnds_cons (by decide), plainLineEnds_append_cons (by decide)]
      exact .emptyObject blank.plainLineEnds
  | object members ih =>
      rw [plainLineEnds_cons (by decide), plainLineEnds_append_cons (by decide)]
      exact .object ih
  | @item t before cs after front value back ih =>
      rw [List.append_assoc, plainLineEnds_append fun _ => value.head?_ne after,
        plainLineEnds_append fun h => absurd h value.getLast?_ne, ← List.append_assoc]
      exact .item front.plainLineEnds ih back.plainLineEnds
  | items first rest ihf ihr =>
      rw [plainLineEnds_append_cons (by decide)]
      exact .items ihf ihr
  | member front chars back value ih =>
      rw [plainLineEnds_append_cons (by decide), plainLineEnds_append_cons (by decide),
        plainLineEnds_append_cons (by decide), plainLineEnds_of_no_return chars.no_return]
      exact .member front.plainLineEnds chars back.plainLineEnds ih
  | members first rest ihf ihr =>
      rw [plainLineEnds_append_cons (by decide)]
      exact .members ihf ihr

theorem Document.plainLineEnds {t : Tree} (h : Document t cs) : Document t (plainLineEnds cs) :=
  Spells.plainLineEnds h

end Json

end TaskQuery
