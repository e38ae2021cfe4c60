import Mathlib.Data.List.Forall2
import TaskQuery.Console.Grid
import TaskQuery.Proofs.Console.PlainText
import TaskQuery.Proofs.Settings.Acceptance
/-!
# Rows of a table

A console that is wide enough for a table shows each row of plain cells in one line, both texts
as they are.
-/

namespace TaskQuery.Console

variable {cs : List Char} {cell line : StyledText} {room columns : Nat} {cells : List StyledText}
  {title out : String} {heads row : String × String} {rows : List (String × String)}

/-! ## Widths -/

theorem le_foldl_max (ns : List Nat) (start : Nat) :
    start ≤ ns.foldl max start ∧ ∀ n ∈ ns, n ≤ ns.foldl max start := by
  induction ns generalizing start with
  | nil => exact ⟨Nat.le_refl _, fun n hn => absurd hn List.not_mem_nil⟩
  | cons n rest ih =>
      obtain ⟨hstart, hrest⟩ := ih (max start n)
      rw [List.foldl_cons]
      refine ⟨(Nat.le_max_left start n).trans hstart, List.forall_mem_cons.2 ⟨?_, hrest⟩⟩
      exact (Nat.le_max_right start n).trans hstart

def neededWidth (cells : List StyledText) : Nat :=
  (cells.map fun cell => widest cell.chars).foldl max 0 + padding

theorem columnWidth_of_le (h : neededWidth cells ≤ room) :
    columnWidth room cells = neededWidth cells :=
  Nat.min_eq_right h

def textsWidth (texts : List String) : Nat :=
  match texts.mapM readMarkup with
  | .ok cells => neededWidth cells
  | .error _ => 0

def tableWidth (heads : String × String) (rows : List (String × String)) : Nat :=
  textsWidth (heads.1 :: rows.map Prod.fst) + textsWidth (heads.2 :: rows.map Prod.snd) +
    barColumns

theorem partsBetween_of_none {p : Char → Bool} (h : ∀ c ∈ cs, p c = false) :
    Text.partsBetween p cs = [cs] := by
  induction cs with
  | nil => rfl
  | cons c rest ih =>
      obtain ⟨hc, hrest⟩ := List.forall_mem_cons.1 h
      have hparts := ih hrest
      unfold Text.partsBetween at hparts ⊢
      rw [List.foldr_cons, hparts, if_neg (by rw [hc]; exact Bool.false_ne_true)]

/-- A text that is shown as it is in one line of a cell. -/
structure PlainCell (cs : List Char) : Prop where
  plain : Plain cs
  line : ∀ c ∈ cs, Text.endsLine c = false
  ending : ∀ c ∈ cs.getLast?, Text.isBlank c = false

theorem PlainCell.widest_eq (h : PlainCell cs) : widest cs = Text.width cs := by
  rw [widest, partsBetween_of_none h.line]
  exact Nat.zero_max _

/-! ## One cell -/

theorem fitRuns_of_le {runs : List (List Char)} (h : runsWidth runs ≤ room) :
    fitRuns room runs = runs.flatten ++ List.replicate (room - runsWidth runs) ' ' := by
  rw [fitRuns]
  exact if_pos h

/-- A padded text in a place that is wide enough for it. -/
theorem fitRuns_padRight (hw : Text.width cs ≤ room) :
    ∃ k, fitRuns room [Text.padRight room cs] = cs ++ List.replicate k ' ' ∧
      Text.width (cs ++ List.replicate k ' ') ≤ room := by
  have hpadded : Text.width (Text.padRight room cs) ≤ room := by
    have hspaces := Text.widthAfter_append_spaces_le none cs (room - Text.width cs)
    unfold Text.padRight Text.width at *
    omega
  have hruns : runsWidth [Text.padRight room cs] = Text.width (Text.padRight room cs) :=
    Nat.add_zero _
  generalize hrest : room - Text.width (Text.padRight room cs) = rest
  have hjoined : Text.padRight room cs ++ List.replicate rest ' ' =
      cs ++ List.replicate (room - Text.width cs + rest) ' ' := by
    rw [Text.padRight, List.append_assoc, List.replicate_append_replicate]
  refine ⟨room - Text.width cs + rest, ?_, ?_⟩
  · rw [fitRuns_of_le (by rw [hruns]; exact hpadded), hruns, hrest, List.flatten_singleton, hjoined]
  · have hspaces := Text.widthAfter_append_spaces_le none (Text.padRight room cs) rest
    rw [← hjoined]
    unfold Text.width at *
    omega

theorem cellLine_eq (hs : cell.stretches = []) (hw : Text.width cell.chars + padding ≤ room) :
    ∃ k, cellLine room cell = ' ' :: (cell.chars ++ List.replicate k ' ') := by
  have hpadded : cell.withChars (Text.padRight (room - padding) cell.chars) =
      { cell with chars := Text.padRight (room - padding) cell.chars } := by
    unfold StyledText.withChars
    rw [if_neg]
    rw [Text.padRight, List.length_append]
    omega
  have hruns (cs : List Char) : StyledText.runs { cell with chars := cs } = [cs] := by
    unfold StyledText.runs
    rw [hs]
    simp [StyledText.divide]
  have hroom : Text.width cell.chars ≤ room - padding := by omega
  obtain ⟨k, hfit, hwidth⟩ := fitRuns_padRight hroom
  have htaken : runsWidth [[' '], cell.chars ++ List.replicate k ' ', [' ']] =
      Text.width (cell.chars ++ List.replicate k ' ') + padding := by
    change 1 + (Text.width (cell.chars ++ List.replicate k ' ') + 1) = _ + 2
    omega
  refine ⟨k + 1 + (room - (Text.width (cell.chars ++ List.replicate k ' ') + padding)), ?_⟩
  unfold cellLine
  dsimp only
  rw [hpadded, hruns, hfit, fitRuns_of_le (by rw [htaken]; omega), htaken]
  simp [List.replicate_add]

theorem wrap_of_plainCell (h : PlainCell cell.chars) (hw : Text.width cell.chars ≤ columns)
    (overflow : Overflow) : cell.wrap columns overflow = [cell] := by
  have hone : cell.lines = [cell] := by
    refine StyledText.lines_of_one fun hnewline => ?_
    exact absurd (h.line '\n' hnewline) (by decide)
  have hfits : ∀ line ∈ cell.lines, StyledText.FitsLine columns line.chars := by
    rw [hone]
    exact List.forall_mem_singleton.2 ⟨hw, .inr h.ending, h.plain.no_tab⟩
  rw [StyledText.wrap_eq_lines hfits overflow, hone]

theorem cellLines_eq (h : PlainCell cell.chars) (hs : cell.stretches = [])
    (hw : Text.width cell.chars + padding ≤ room) :
    ∃ k, cellLines room cell = .ok [' ' :: (cell.chars ++ List.replicate k ' ')] := by
  obtain ⟨k, hline⟩ := cellLine_eq hs hw
  have hshowable : ([cell].all fun line => line.isShowable) = true := by
    rw [List.all_cons, StyledText.isShowable, hs]
    rfl
  refine ⟨k, ?_⟩
  unfold cellLines
  dsimp only
  rw [wrap_of_plainCell h (by omega) .ellipsis, if_pos hshowable, ← hline]
  rfl

/-! ## Rows -/

/-- The line of a table that shows two texts between bars. -/
def ShowsRow (first second : List Char) (out : String) : Prop :=
  ∃ k j, '│' :: ' ' :: (first ++ List.replicate k ' ') ++
    '│' :: ' ' :: (second ++ List.replicate j ' ') ++ ['│'] <:+: out.toList

theorem ShowsRow.mono {first second : List Char} {more : String} (h : ShowsRow first second out)
    (hinside : out.toList <:+: more.toList) : ShowsRow first second more := by
  obtain ⟨k, j, hrow⟩ := h
  exact ⟨k, j, hrow.trans hinside⟩

theorem rowLines_eq (bar : Char) (widths : Nat × Nat) {a b : StyledText}
    (ha : PlainCell a.chars) (hb : PlainCell b.chars) (hsa : a.stretches = [])
    (hsb : b.stretches = []) (hwa : Text.width a.chars + padding ≤ widths.1)
    (hwb : Text.width b.chars + padding ≤ widths.2) :
    ∃ k j, rowLines bar widths (a, b) =
      .ok [bar :: ' ' :: (a.chars ++ List.replicate k ' ') ++
        bar :: ' ' :: (b.chars ++ List.replicate j ' ') ++ [bar]] := by
  obtain ⟨k, hk⟩ := cellLines_eq ha hsa hwa
  obtain ⟨j, hj⟩ := cellLines_eq hb hsb hwb
  refine ⟨k, j, ?_⟩
  unfold rowLines
  rw [hk, hj]
  rfl

theorem exists_rowLines (bar : Char) (widths : Nat × Nat) {a b : StyledText}
    (ha : a.isShowable = true) (hb : b.isShowable = true) (hta : '\t' ∉ a.chars)
    (htb : '\t' ∉ b.chars) : ∃ lines, rowLines bar widths (a, b) = .ok lines := by
  have hcell {cell : StyledText} (hc : cell.isShowable = true) (ht : '\t' ∉ cell.chars)
      (room : Nat) : ∃ lines, cellLines room cell = .ok lines := by
    have hall : ((cell.wrap (room - padding) .ellipsis).all fun line => line.isShowable) = true :=
      List.all_eq_true.2 fun line hline => StyledText.isShowable_of_mem_wrap hc ht hline
    exact ⟨_, if_pos hall⟩
  obtain ⟨first, hfirst⟩ := hcell ha hta widths.1
  obtain ⟨second, hsecond⟩ := hcell hb htb widths.2
  unfold rowLines
  rw [hfirst, hsecond]
  exact ⟨_, rfl⟩

/-! ## Tables -/

theorem mapM_eq_ok_iff {α β ε : Type} {f : α → Except ε β} {xs : List α} {ys : List β} :
    xs.mapM f = .ok ys ↔ List.Forall₂ (fun x y => f x = .ok y) xs ys := by
  induction xs generalizing ys with
  | nil =>
      rw [List.mapM_nil, List.forall₂_nil_left_iff]
      exact ⟨fun h => (Except.ok.inj h).symm, fun h => h ▸ rfl⟩
  | cons x rest ih =>
      rw [List.mapM_cons, Server.bind_ok_iff, List.forall₂_cons_left_iff]
      constructor
      · rintro ⟨y, hy, h⟩
        obtain ⟨others, hothers, h⟩ := Server.bind_ok_iff.1 h
        exact ⟨y, others, hy, ih.1 hothers, (Except.ok.inj h).symm⟩
      · rintro ⟨y, others, hy, hothers, rfl⟩
        exact ⟨y, hy, Server.bind_ok_iff.2 ⟨others, ih.2 hothers, rfl⟩⟩

theorem exists_mapM {α β ε : Type} {f : α → Except ε β} {xs : List α}
    (h : ∀ x ∈ xs, ∃ y, f x = .ok y) : ∃ ys, xs.mapM f = .ok ys := by
  induction xs with
  | nil => exact ⟨[], rfl⟩
  | cons x rest ih =>
      obtain ⟨⟨y, hy⟩, hrest⟩ := List.forall_mem_cons.1 h
      obtain ⟨ys, hys⟩ := ih hrest
      exact ⟨y :: ys, mapM_eq_ok_iff.2 (.cons hy (mapM_eq_ok_iff.1 hys))⟩

theorem mem_zip_of_forall₂ {α β γ : Type} {R : α → β → Prop} {S : α → γ → Prop}
    {xs : List α} {ys : List β} {zs : List γ} (hys : List.Forall₂ R xs ys)
    (hzs : List.Forall₂ S xs zs) {x : α} (hx : x ∈ xs) :
    ∃ y z, (y, z) ∈ ys.zip zs ∧ R x y ∧ S x z := by
  induction hys generalizing zs with
  | nil => cases hx
  | cons hy hothers ih =>
      obtain ⟨z, rest, hz, hrest, rfl⟩ := List.forall₂_cons_left_iff.1 hzs
      rcases List.mem_cons.1 hx with rfl | hx
      · exact ⟨_, _, List.mem_cons_self, hy, hz⟩
      · obtain ⟨y, z, hmem, h⟩ := ih hrest hx
        exact ⟨y, z, List.mem_cons_of_mem _ hmem, h⟩

theorem exists_of_mem_mapM {α β ε : Type} {f : α → Except ε β} {xs : List α} {ys : List β} {x : α}
    (h : xs.mapM f = .ok ys) (hx : x ∈ xs) : ∃ y ∈ ys, f x = .ok y := by
  have hrelated := mapM_eq_ok_iff.1 h
  obtain ⟨y, _, hmem, hy, -⟩ := mem_zip_of_forall₂ hrelated hrelated hx
  exact ⟨y, (List.of_mem_zip hmem).1, hy⟩

theorem shareRoom_of_le {first second : Nat} (h : first + second ≤ room) :
    shareRoom room first second = (first, second) :=
  if_pos h

theorem textsWidth_of_mapM {texts : List String} (h : texts.mapM readMarkup = .ok cells) :
    textsWidth texts = neededWidth cells := by
  rw [textsWidth, h]

theorem width_add_padding_le (h : PlainCell cell.chars) (hmem : cell ∈ cells) :
    Text.width cell.chars + padding ≤ neededWidth cells := by
  have hle := (le_foldl_max (cells.map fun cell => widest cell.chars) 0).2 _
    (List.mem_map_of_mem hmem)
  rw [h.widest_eq] at hle
  exact Nat.add_le_add_right hle padding

theorem isInfix_of_line {line : List Char} {lines : List (List Char)} (h : line ∈ lines) :
    line <:+: lines.flatMap fun line => line ++ ['\n'] := by
  obtain ⟨before, after, rfl⟩ := List.append_of_mem h
  rw [List.flatMap_append, List.flatMap_cons]
  exact ⟨_, '\n' :: _, by simp; rfl⟩

theorem widths_eq {firsts seconds : List StyledText}
    (hfirsts : (heads.1 :: rows.map Prod.fst).mapM readMarkup = .ok firsts)
    (hseconds : (heads.2 :: rows.map Prod.snd).mapM readMarkup = .ok seconds)
    (wide : tableWidth heads rows ≤ columns) :
    shareRoom (columns - barColumns) (columnWidth (columns - barColumns) firsts)
        (columnWidth (columns - barColumns) seconds) =
      (neededWidth firsts, neededWidth seconds) := by
  rw [tableWidth, textsWidth_of_mapM hfirsts, textsWidth_of_mapM hseconds] at wide
  rw [columnWidth_of_le (by omega), columnWidth_of_le (by omega), shareRoom_of_le (by omega)]

theorem exists_cells_of_mem {firsts seconds : List StyledText}
    (hfirsts : (heads.1 :: rows.map Prod.fst).mapM readMarkup = .ok firsts)
    (hseconds : (heads.2 :: rows.map Prod.snd).mapM readMarkup = .ok seconds)
    (hrow : row ∈ rows) :
    ∃ a b, (a, b) ∈ (firsts.zip seconds).drop 1 ∧ a ∈ firsts ∧ b ∈ seconds ∧
      readMarkup row.1 = .ok a ∧ readMarkup row.2 = .ok b := by
  obtain ⟨_, fs, -, hfs, rfl⟩ := List.forall₂_cons_left_iff.1 (mapM_eq_ok_iff.1 hfirsts)
  obtain ⟨_, ss, -, hss, rfl⟩ := List.forall₂_cons_left_iff.1 (mapM_eq_ok_iff.1 hseconds)
  obtain ⟨a, b, hmem, ha, hb⟩ := mem_zip_of_forall₂ (List.forall₂_map_left_iff.1 hfs)
    (List.forall₂_map_left_iff.1 hss) hrow
  obtain ⟨hfirst, hsecond⟩ := List.of_mem_zip hmem
  exact ⟨a, b, hmem, List.mem_cons_of_mem _ hfirst, List.mem_cons_of_mem _ hsecond, ha, hb⟩

/-- A table that is shown on a console wide enough for it shows each row of plain cells. -/
theorem table_shows (h : table columns title heads rows = .ok out)
    (wide : tableWidth heads rows ≤ columns) (hrow : row ∈ rows)
    (hfirst : PlainCell row.1.toList) (hsecond : PlainCell row.2.toList) :
    ShowsRow row.1.toList row.2.toList out := by
  unfold table at h
  obtain ⟨firsts, hfirsts, h⟩ := Server.bind_ok_iff.1 h
  obtain ⟨seconds, hseconds, h⟩ := Server.bind_ok_iff.1 h
  obtain ⟨shownTitle, -, h⟩ := Server.bind_ok_iff.1 h
  obtain ⟨headLines, -, h⟩ := Server.bind_ok_iff.1 h
  obtain ⟨bodyLines, hbody, h⟩ := Server.bind_ok_iff.1 h
  obtain ⟨a, b, hmem, ha, hb, hreadFirst, hreadSecond⟩ :=
    exists_cells_of_mem hfirsts hseconds hrow
  have hplainFirst := readMarkup_plain hfirst.plain
  have hplainSecond := readMarkup_plain hsecond.plain
  rw [String.ofList_toList, hreadFirst] at hplainFirst
  rw [String.ofList_toList, hreadSecond] at hplainSecond
  obtain rfl := Except.ok.inj hplainFirst
  obtain rfl := Except.ok.inj hplainSecond
  -- The one line of the row stands among the lines of the table.
  obtain ⟨k, j, hline⟩ := rowLines_eq '│' (neededWidth firsts, neededWidth seconds)
    hfirst hsecond rfl rfl (width_add_padding_le hfirst ha) (width_add_padding_le hsecond hb)
  rw [widths_eq hfirsts hseconds wide] at hbody h
  dsimp only at h
  obtain ⟨lines, hlines, hshown⟩ := exists_of_mem_mapM hbody hmem
  rw [hline] at hshown
  obtain rfl := Except.ok.inj hshown
  refine ⟨k, j, ?_⟩
  rw [← Except.ok.inj h, String.toList_ofList]
  refine isInfix_of_line (List.mem_append_left _ (List.mem_append_right _ ?_))
  exact List.mem_flatten.2 ⟨_, hlines, List.mem_singleton_self _⟩

theorem mapM_plain {texts : List String} (h : ∀ text ∈ texts, Plain text.toList) :
    texts.mapM readMarkup =
      .ok (texts.map fun text => { chars := text.toList, stretches := [] }) := by
  rw [mapM_eq_ok_iff, List.forall₂_map_right_iff, List.forall₂_same]
  intro text htext
  have hread := readMarkup_plain (h text htext)
  rwa [String.ofList_toList] at hread

/-- A table of plain texts can be shown. -/
theorem exists_table (columns : Nat) (htitle : Plain title.toList)
    (hfirst : ∀ text ∈ heads.1 :: rows.map Prod.fst, Plain text.toList)
    (hsecond : ∀ text ∈ heads.2 :: rows.map Prod.snd, Plain text.toList) :
    ∃ out, table columns title heads rows = .ok out := by
  have hshow {texts : List String} {cell : StyledText}
      (hplain : ∀ text ∈ texts, Plain text.toList)
      (hcell : cell ∈ texts.map fun text => (⟨text.toList, []⟩ : StyledText)) :
      cell.isShowable = true ∧ '\t' ∉ cell.chars := by
    obtain ⟨text, htext, rfl⟩ := List.mem_map.1 hcell
    exact ⟨rfl, (hplain text htext).no_tab⟩
  have hrows (bar : Char) (widths : Nat × Nat) (cells : List (StyledText × StyledText))
      (hcells : ∀ pair ∈ cells, pair ∈
        ((heads.1 :: rows.map Prod.fst).map fun text => (⟨text.toList, []⟩ : StyledText)).zip
        ((heads.2 :: rows.map Prod.snd).map fun text => (⟨text.toList, []⟩ : StyledText))) :
      ∃ lines, cells.mapM (rowLines bar widths) = .ok lines := by
    refine exists_mapM fun (a, b) hpair => ?_
    obtain ⟨ha, hb⟩ := List.of_mem_zip (hcells _ hpair)
    obtain ⟨hshowFirst, htabFirst⟩ := hshow hfirst ha
    obtain ⟨hshowSecond, htabSecond⟩ := hshow hsecond hb
    exact exists_rowLines bar widths hshowFirst hshowSecond htabFirst htabSecond
  have htitleRead := readMarkup_plain htitle
  rw [String.ofList_toList] at htitleRead
  unfold table
  rw [mapM_plain hfirst, mapM_plain hsecond, htitleRead]
  dsimp only [bind, Except.bind]
  generalize shareRoom _ _ _ = widths
  obtain ⟨headLines, hhead⟩ := hrows '┃' widths _ fun pair hpair => List.mem_of_mem_take hpair
  obtain ⟨bodyLines, hbody⟩ := hrows '│' widths _ fun pair hpair => List.mem_of_mem_drop hpair
  rw [hhead, hbody]
  exact ⟨_, rfl⟩

end TaskQuery.Console
