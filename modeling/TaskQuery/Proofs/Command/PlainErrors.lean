import TaskQuery.Proofs.Command.PlainOutput
import TaskQuery.Proofs.Query.Faults
import TaskQuery.Proofs.Query.FieldReport
import TaskQuery.Proofs.Query.Layout
/-!
# Plain errors

What an error quotes are the known fields, and a token or a character of the query. If nothing in
these has a meaning in markup, the errors are plain, so that style comes from nowhere else.
-/

namespace TaskQuery

open Query Console

variable {text : String} {tokens : List Token} {t found : Token} {v : Vocabulary} {s : Settings}

/-! ## Tokens -/

namespace Query

theorem Lexeme.decode_eq {cs : List Char} (h : '\\' ∉ cs) : Lexeme.decode cs = cs := by
  induction cs with
  | nil => rfl
  | cons c rest ih =>
      obtain ⟨hc, hrest⟩ := not_or.1 (mt List.mem_cons.2 h)
      rw [Lexeme.decode_plain (Ne.symm hc), ih hrest]

theorem Lexeme.Written.subset {kind : TokenKind} {content slice : List Char}
    (h : Written kind content slice) (hescape : '\\' ∉ slice) : content ⊆ slice := by
  cases h with
  | @string quote body hquote hbody =>
      have hinside : body ⊆ quote :: (body ++ [quote]) :=
        List.Subset.trans (List.subset_append_left body [quote]) (List.subset_cons_self _ _)
      rw [decode_eq fun hmem => hescape (hinside hmem)]
      exact hinside
  | number => exact List.Subset.refl _
  | sign => exact List.Subset.refl _
  | word => exact List.Subset.refl _

theorem strip_subset (text : String) : (Text.strip text).toList ⊆ text.toList := by
  obtain ⟨front, back, hsplit, -, -⟩ := Text.exists_around_trimBy Text.isBlank text.toList
  rw [toList_strip]
  intro c hc
  rw [hsplit]
  exact List.mem_append_right _ (List.mem_append_left _ hc)

theorem harmless_token (hread : tokenize text = .ok tokens)
    (hquery : text.toList.all isHarmless = true) (ht : t ∈ tokens) :
    t.text.toList.all isHarmless = true := by
  obtain ⟨inner, rfl, htiling⟩ := tiling_of_tokenize hread
  rcases List.mem_append.1 ht with hinner | hend
  · have hslice : t.slice (Text.strip text).toList ⊆ text.toList :=
      List.Subset.trans (List.Subset.trans (List.take_subset _ _) (List.drop_subset _ _))
        (strip_subset text)
    have hescape : '\\' ∉ t.slice (Text.strip text).toList := fun hmem =>
      (unmarked_of_harmless hquery _ (hslice hmem)).2 rfl
    have hcontent := (htiling.fits t hinner).written.subset hescape
    exact List.all_eq_true.2 fun c hc => List.all_eq_true.1 hquery c (hslice (hcontent hc))
  · rw [List.mem_singleton.1 hend]
    rfl

theorem Parse.mem_of_found {e : ParseError} (hread : tokenize text = .ok tokens)
    (herror : (parseTokens tokens).error = some e) (hfound : e.found? = some found) :
    found ∈ tokens := by
  obtain ⟨inner, position, rfl, hinner⟩ := tokenize_ends hread
  have hend : (Token.atEnd position).kind = .endOfInput := rfl
  by_cases hne : inner = []
  · rw [hne, List.nil_append, parseTokens_end hend []] at herror
    obtain rfl := Option.some.inj herror
    cases hfound
  · obtain ⟨taken, stop, rest, hsplit, hhalts⟩ := parseTokens_halts hinner hend hne []
    obtain ⟨named, hnamed, hplace⟩ := hhalts.names herror
    obtain rfl := Option.some.inj (hnamed.symm.trans hfound)
    rw [hsplit]
    rcases hplace with ⟨rfl, -⟩ | ⟨-, before, rfl, -⟩
    · exact List.mem_append_right _ List.mem_cons_self
    · exact List.mem_append_left _ (List.mem_append_right _ (List.mem_singleton_self _))

/-! ## Messages -/

theorem harmless_toString (n : Nat) : (toString n).toList.all isHarmless = true := by
  have hdigits : ∀ n < 0x80, (Char.ofNat n).isDigit = true →
      isHarmless (Char.ofNat n) = true := by decide
  have hlist : (toString n).toList = Nat.toDigits 10 n := String.toList_ofList
  rw [hlist]
  refine List.all_eq_true.2 fun c hc => ?_
  have hdigit := Nat.isDigit_of_mem_toDigits (by decide) (by decide) hc
  have hascii : c.toNat < 0x80 := by
    have hbounds := Number.toNat_of_isDigit hdigit
    omega
  exact ascii_induction (p := fun c => c.isDigit = true → isHarmless c = true) hdigits hascii hdigit

theorem SyntaxError.plain_message {e : SyntaxError} (h : isHarmless e.character = true) :
    Plain e.message.toList := by
  have hcharacter : (toString e.character).toList.all isHarmless = true := by
    have hlist : (toString e.character).toList = [e.character] := String.toList_singleton _
    rw [hlist, List.all_cons, h]
    rfl
  unfold SyntaxError.message
  split
  · exact .of_harmless
      (harmless_append (harmless_ofList (by decide)) (harmless_toString e.position))
  · exact .of_harmless
      (harmless_append (harmless_append (harmless_ofList (by decide)) hcharacter) (by decide))
  · have hshown : "Unexpected character: '" ++ toString e.character ++ "'" =
        "Unexpected character" ++ ": " ++ ("'" ++ toString e.character ++ "'") := by
      rw [← String.toList_inj]
      simp [String.toList_append]
    rw [hshown]
    exact Plain.labelled (harmless_ofList (by decide))
      (.of_harmless (harmless_append (harmless_append (by decide) hcharacter) (by decide)))

theorem Wanted.harmless (wanted : Wanted) : wanted.message.toList.all isHarmless = true := by
  cases wanted <;> exact harmless_ofList (by decide)

theorem ParseError.plain_message {e : ParseError}
    (h : ∀ found ∈ e.found?, found.text.toList.all isHarmless = true) :
    Plain e.message.toList := by
  unfold ParseError.message
  split
  · exact .of_harmless (by decide)
  · rename_i wanted found
    have hshown : (if found.kind = .endOfInput then "end of input"
        else "'" ++ found.text ++ "'").toList.all isHarmless = true := by
      split
      · decide
      · exact harmless_append (harmless_append (by decide) (h found rfl)) (by decide)
    have hwanted := harmless_append
      (harmless_append wanted.harmless (b := ", got ") (by decide)) hshown
    exact .of_harmless (harmless_append hwanted
      (harmless_append (by decide) (harmless_toString found.position)))
  · rename_i found
    have hshown : "Unexpected token: '" ++ found.text ++ s!"' at position {found.position}" =
        "Unexpected token" ++ ": " ++
          ("'" ++ found.text ++ s!"' at position {found.position}") := by
      rw [← String.toList_inj]
      simp [String.toList_append]
    rw [hshown]
    exact Plain.labelled (harmless_ofList (by decide))
      (.of_harmless (harmless_append (harmless_append (by decide) (h found rfl))
        (harmless_append (by decide) (harmless_toString found.position))))
  · exact .of_harmless (by decide)

def FieldError.names : FieldError → List String
  | .unknownField name _ known suggestion => name :: (known ++ suggestion.toList)
  | .strayIs _ => []

theorem FieldError.plain_message {e : FieldError}
    (h : ∀ name ∈ e.names, name.toList.all isHarmless = true) : Plain e.message.toList := by
  unfold FieldError.message
  split
  · rename_i name position known suggestion
    have hname := h name List.mem_cons_self
    have hsuggestion := h suggestion
      (List.mem_cons_of_mem _ (List.mem_append_right _ (List.mem_singleton_self _)))
    have hshown : "Unknown field: '" ++ name ++ "'. Did you mean '" ++ suggestion ++
        s!"'? (at position {position})" = "Unknown field" ++ ": " ++
          ("'" ++ name ++ "'. Did you mean '" ++ suggestion ++
            s!"'? (at position {position})") := by
      rw [← String.toList_inj]
      simp [String.toList_append]
    rw [hshown]
    have hquoted := harmless_append (harmless_append (a := "'") (by decide) hname)
      (b := "'. Did you mean '") (by decide)
    refine Plain.labelled (by decide) (.of_harmless
      (harmless_append (harmless_append hquoted hsuggestion) ?_))
    exact harmless_append (harmless_append (by decide) (harmless_toString position)) (by decide)
  · rename_i name position known
    have hname := h name List.mem_cons_self
    have hlist : (", ".intercalate known).toList.all isHarmless = true :=
      Command.harmless_intercalate fun field hfield =>
        h field (List.mem_cons_of_mem _ (List.mem_append_left _ hfield))
    have hshown : "Unknown field: '" ++ name ++ "'. Valid fields: " ++ ", ".intercalate known ++
        s!" (at position {position})" = "Unknown field" ++ ": " ++
          ("'" ++ name ++ "'. Valid fields" ++ ": " ++
            (", ".intercalate known ++ s!" (at position {position})")) := by
      rw [← String.toList_inj]
      simp [String.toList_append]
    rw [hshown]
    have hquoted := harmless_append (harmless_append (a := "'") (by decide) hname)
      (b := "'. Valid fields") (by decide)
    refine Plain.labelled (by decide) (Plain.labelled hquoted (.of_harmless
      (harmless_append hlist ?_)))
    exact harmless_append (harmless_append (by decide) (harmless_toString position)) (by decide)
  · rename_i position
    exact .of_harmless (harmless_append (harmless_ofList (by decide)) (harmless_toString position))

theorem Vocabulary.mem_names {following : Option Token} {e : FieldError} {name : String}
    (h : v.errorAt? t following = some e) (hname : name ∈ e.names) :
    name = t.text ∨ name ∈ v.fields := by
  rcases errorAt?_cases h with ⟨-, rfl⟩ | ⟨-, rfl⟩
  · rcases List.mem_cons.1 hname with rfl | hknown
    · exact .inl rfl
    · rcases List.mem_append.1 hknown with hfield | hsuggested
      · exact .inr hfield
      · have hclosest := (Option.mem_filter_iff.1 (Option.mem_toList.1 hsuggested)).1
        exact .inr (Text.closest?_eq_some_iff.1 hclosest).2.mem
  · cases hname

end Query

/-! ## Queries -/

/-- The errors of a query are plain if its characters and those of the known fields have no meaning
in markup. -/
theorem Selector.plain_messages (hquery : text.toList.all isHarmless = true)
    (known : ∀ field ∈ s.vocabulary.fields, field.toList.all isHarmless = true) :
    ∀ error ∈ (Selector.parse s text).messages, Plain error.toList := by
  intro message hmessage
  obtain ⟨error, herror, rfl⟩ := List.mem_map.1 hmessage
  cases hread : tokenize text with
  | error e =>
      rw [Selector.parse, hread] at herror
      obtain rfl := List.mem_singleton.1 herror
      have hcharacter := List.mem_of_getElem? (holds_of_tokenize hread).1.character
      exact e.plain_message (List.all_eq_true.1 hquery _ (strip_subset text hcharacter))
  | ok tokens =>
      by_cases herrors : s.vocabulary.errors tokens = []
      · rw [parse_of_no_errors s hread herrors] at herror
        obtain ⟨e, he, rfl⟩ := Option.map_eq_some_iff.1 (Option.mem_toList.1 herror)
        exact e.plain_message fun found hfound =>
          harmless_token hread hquery (Parse.mem_of_found hread he hfound)
      · rw [parse_of_errors s hread herrors] at herror
        obtain ⟨e, he, rfl⟩ := List.mem_map.1 herror
        obtain ⟨t, ht, following, hat⟩ := Vocabulary.exists_errorAt? he
        refine e.plain_message fun name hname => ?_
        rcases Vocabulary.mem_names hat hname with rfl | hknown
        · exact harmless_token hread hquery ht
        · exact known name hknown

end TaskQuery
