import TaskQuery.Proofs.Query.Layout
/-!
# Queries in another layout

A query does not depend on the blanks between its lexemes, nor on the case of letters in
its names and keywords.
-/

namespace TaskQuery.Selector

open Query Server

variable {text : String} {tokens others : List Token} {stop stop' : Nat}

theorem alike_of_respelled (read : tokenize text = .ok (tokens ++ [Token.atEnd stop]))
    (h : List.Forall₂ Token.Respelled tokens others) :
    List.Forall₂ Token.Alike (tokens ++ [Token.atEnd stop]) (others ++ [Token.atEnd stop']) := by
  have hfits := (tiles_of_tokenize read).fits
  have hinner : List.Forall₂ Token.Alike tokens others := by
    rw [List.forall₂_iff_zip] at h ⊢
    refine ⟨h.1, fun {t u} hmem => ?_⟩
    have ht := (hfits t (List.of_mem_zip hmem).1).1
    exact (h.2 hmem).alike ht.written
  exact List.rel_append hinner (.cons ⟨rfl, rfl, fun _ => rfl⟩ .nil)

/-- Blanks and the case of letters in names never change a query. If the lexemes of a text
are written again with other blanks between them, at least one where there were some, and
with the letters of identifiers and keywords in any case, then the tokens have the same
kinds, lengths and, but for that case, texts. Under all settings the new text is read as
the same tree with the same fields and as many errors, and it compiles to the same filter,
the same predicate and the same warnings. -/
theorem layout_and_case_irrelevant {text other : String} {tokens : List Token} {stop : Nat}
    (read : tokenize text = .ok (tokens ++ [Token.atEnd stop]))
    (relaid : Relaid (Text.strip text).toList 0 tokens other.toList) :
    ∃ others stop', tokenize other = .ok (others ++ [Token.atEnd stop']) ∧
      List.Forall₂ Token.Respelled tokens others ∧
      ∀ s : Settings,
        (parse s text).Alike (parse s other) ∧
        (compile s text).map Compilation.silent = (compile s other).map Compilation.silent := by
  obtain ⟨others, stop', hother, hsame⟩ := tokenize_relaid read relaid
  refine ⟨others, stop', hother, hsame, fun s => ?_⟩
  have hparse := parse_alike s read hother (alike_of_respelled read hsame)
  exact ⟨hparse, compile_alike s hparse⟩

/-- The tokens of `size>=3 and Tags IS null`. -/
def crowdedTokens : List Token :=
  [⟨.identifier, "size", 0, 4⟩, ⟨.greaterEqual, ">=", 4, 2⟩, ⟨.number, "3", 6, 1⟩,
    ⟨.and, "and", 8, 3⟩, ⟨.identifier, "Tags", 12, 4⟩, ⟨.is, "IS", 17, 2⟩,
    ⟨.null, "null", 20, 4⟩]

theorem crowded_read :
    tokenize "size>=3 and Tags IS null" = .ok (crowdedTokens ++ [Token.atEnd 24]) := by
  decide +kernel

theorem crowded_relaid :
    Relaid (Text.strip "size>=3 and Tags IS null").toList 0 crowdedTokens
      " SIZE>= 3\n\tAnd tAGS is  Null ".toList := by
  have hparts : " SIZE>= 3\n\tAnd tAGS is  Null ".toList =
      [' '] ++ ("SIZE".toList ++ ([] ++ (">=".toList ++ ([' '] ++ ("3".toList ++
        (['\n', '\t'] ++ ("And".toList ++ ([' '] ++ ("tAGS".toList ++ ([' '] ++ ("is".toList ++
          ([' ', ' '] ++ ("Null".toList ++ [' ']))))))))))))) := by
    decide
  rw [hparts]
  iterate 7 refine .token (List.all_eq_true.1 (by decide)) (by decide) (by decide +kernel) ?_
  exact .done (List.all_eq_true.1 (by decide))

theorem crowded_irrelevant :
    tokenize "size>=3 and Tags IS null" = .ok (crowdedTokens ++ [Token.atEnd 24]) ∧
    Relaid (Text.strip "size>=3 and Tags IS null").toList 0 crowdedTokens
      " SIZE>= 3\n\tAnd tAGS is  Null ".toList ∧
    (parse .standard "size>=3 and Tags IS null").Alike
      (parse .standard " SIZE>= 3\n\tAnd tAGS is  Null ") := by
  obtain ⟨others, stop, -, -, hsettings⟩ :=
    layout_and_case_irrelevant crowded_read crowded_relaid
  exact ⟨crowded_read, crowded_relaid, (hsettings .standard).1⟩

end TaskQuery.Selector
