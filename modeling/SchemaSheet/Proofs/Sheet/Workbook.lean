import SchemaSheet.Proofs.Sheet.Json
import SchemaSheet.Sheet.Format

/-! What a workbook shows. An underscore that begins what looks like an escape is stored as an
escape itself, so that the escapes of a stored text are those that were put in and replacing them
gives the text back, whatever it holds. Rows fit if there are not too many and no cell is too
long. -/

namespace SchemaSheet

namespace Workbook

open Text

section Escapes

/-- The character that an escape names, if the text begins with one. -/
def escape? : Text → Option Char
  | '_' :: 'x' :: a :: b :: c :: d :: '_' :: _ => hexChar? [a, b, c, d]
  | _ => none

/-- A stored text with its escapes replaced by the characters that they name, from left to right.
The first characters, which belong to an escape already replaced, are skipped. -/
def unescaped (skipped : Nat) : Text → Text
  | [] => []
  | c :: cs =>
    match skipped with
    | n + 1 => unescaped n cs
    | 0 =>
      match escape? (c :: cs) with
      | some d => d :: unescaped 6 cs
      | none => c :: unescaped 0 cs

theorem unescaped_of_escape? {c d : Char} {cs : Text} (h : escape? (c :: cs) = some d) :
    unescaped 0 (c :: cs) = d :: unescaped 6 cs := by
  rw [unescaped]
  simp only [h]

theorem unescaped_of_none {c : Char} {cs : Text} (h : escape? (c :: cs) = none) :
    unescaped 0 (c :: cs) = c :: unescaped 0 cs := by
  rw [unescaped]
  simp only [h]

theorem escape?_eq_some {t : Text} {e : Char} (h : escape? t = some e) :
    ∃ a b c d r, t = '_' :: 'x' :: a :: b :: c :: d :: '_' :: r ∧
      hexChar? [a, b, c, d] = some e := by
  unfold escape? at h
  split at h
  · exact ⟨_, _, _, _, _, rfl, h⟩
  · cases h

theorem isHexDigit_of_hexChar? {a b c d e : Char} (h : hexChar? [a, b, c, d] = some e) :
    [a, b, c, d].all isHexDigit = true := by
  simp only [hexChar?, numeral?, Option.bind_eq_bind, Option.bind_eq_some_iff] at h
  obtain ⟨n, ⟨i, hi, j, hj, k, hk, l, hl, -⟩, -⟩ := h
  simp [isHexDigit, hi, hj, hk, hl]

theorem hexChar?_controlEscape : ∀ n < 0x20,
    hexChar? ['0', '0', Nat.digitChar (n / 16), (Nat.digitChar (n % 16)).toUpper] =
      some (Char.ofNat n) := by decide

theorem unescaped_controlEscape {c : Char} (h : c.toNat < 0x20) (t : Text) :
    unescaped 0 (controlEscape c ++ t) = c :: unescaped 0 t := by
  have hlong := hexChar?_controlEscape c.toNat h
  rw [Char.ofNat_toNat] at hlong
  exact unescaped_of_escape? hlong

theorem stored_cons_cases (c : Char) (cs : Text) :
    (c = '_' ∧ looksEscaped cs = true ∧ stored (c :: cs) = "_x005F_".toList ++ stored cs) ∨
    (c = '_' ∧ looksEscaped cs = false ∧ stored (c :: cs) = c :: stored cs) ∨
    (c ≠ '_' ∧ c.toNat < 0x20 ∧ stored (c :: cs) = controlEscape c ++ stored cs) ∨
    (c ≠ '_' ∧ stored (c :: cs) = c :: stored cs) := by
  rw [stored]
  by_cases hc : c = '_'
  · cases hlooks : looksEscaped cs <;> simp [hc]
  · by_cases hcontrol : c.toNat < 0x20 && c != '\t' && c != '\n'
    · have hlt : c.toNat < 0x20 := by
        simp only [Bool.and_eq_true, decide_eq_true_eq] at hcontrol
        exact hcontrol.1.1
      exact Or.inr (Or.inr (Or.inl ⟨hc, hlt, by rw [if_neg hc, if_pos hcontrol]⟩))
    · exact Or.inr (Or.inr (Or.inr ⟨hc, by rw [if_neg hc, if_neg hcontrol]; rfl⟩))

/-- Escapes begin with an underscore, so another character is stored as it is. -/
theorem eq_cons_of_stored_eq_cons {t r : Text} {c : Char} (hc : c ≠ '_') (h : stored t = c :: r) :
    ∃ s, t = c :: s ∧ stored s = r := by
  cases t with
  | nil => cases h
  | cons d s =>
    rcases stored_cons_cases d s with ⟨-, -, hs⟩ | ⟨rfl, -, hs⟩ | ⟨-, -, hs⟩ | ⟨-, hs⟩
    · exact absurd (List.cons.inj (hs.symm.trans h)).1.symm hc
    · exact absurd (List.cons.inj (hs.symm.trans h)).1.symm hc
    · exact absurd (List.cons.inj (hs.symm.trans h)).1.symm hc
    · obtain ⟨rfl, hr⟩ := List.cons.inj (hs.symm.trans h)
      exact ⟨s, rfl, hr⟩

theorem ne_underscore_of_isHexDigit {c : Char} (h : isHexDigit c = true) : c ≠ '_' := by
  rintro rfl
  cases h

/-- An underscore that is stored as it is begins no escape: what makes up one behind it would have
made it look like one before. -/
theorem escape?_stored {cs : Text} (h : looksEscaped cs = false) :
    escape? ('_' :: stored cs) = none := by
  cases he : escape? ('_' :: stored cs) with
  | none => rfl
  | some e =>
    obtain ⟨a, b, c, d, r, heq, hlong⟩ := escape?_eq_some he
    have hdigits := isHexDigit_of_hexChar? hlong
    simp only [List.all_cons, List.all_nil, Bool.and_true, Bool.and_eq_true] at hdigits
    obtain ⟨ha, hb, hc, hd⟩ := hdigits
    -- the letter and the digits are no underscores, so they stand in the text as well
    obtain ⟨t, rfl, ht⟩ := eq_cons_of_stored_eq_cons (by decide) (List.cons.inj heq).2
    obtain ⟨u, rfl, hu⟩ := eq_cons_of_stored_eq_cons (ne_underscore_of_isHexDigit ha) ht
    obtain ⟨v, rfl, hv⟩ := eq_cons_of_stored_eq_cons (ne_underscore_of_isHexDigit hb) hu
    obtain ⟨w, rfl, hw⟩ := eq_cons_of_stored_eq_cons (ne_underscore_of_isHexDigit hc) hv
    obtain ⟨s, rfl, hs⟩ := eq_cons_of_stored_eq_cons (ne_underscore_of_isHexDigit hd) hw
    cases s with
    | nil => cases hs
    | cons f s => simp [looksEscaped, ha, hb, hc, hd] at h

theorem escape?_of_ne {c : Char} (h : c ≠ '_') (cs : Text) : escape? (c :: cs) = none := by
  unfold escape?
  split
  · next heq => exact absurd (List.cons.inj heq).1 h
  · rfl

theorem unescaped_stored (t : Text) : unescaped 0 (stored t) = t := by
  induction t with
  | nil => rfl
  | cons c t ih =>
    rcases stored_cons_cases c t with
      ⟨rfl, -, hs⟩ | ⟨rfl, hlooks, hs⟩ | ⟨-, hcontrol, hs⟩ | ⟨hc, hs⟩
    · have hescape : unescaped 0 ("_x005F_".toList ++ stored t) = '_' :: unescaped 0 (stored t) :=
        unescaped_of_escape? rfl
      rw [hs, hescape, ih]
    · rw [hs, unescaped_of_none (escape?_stored hlooks), ih]
    · rw [hs, unescaped_controlEscape hcontrol, ih]
    · rw [hs, unescaped_of_none (escape?_of_ne hc _), ih]

end Escapes

/-- Of lines that are not too many, those with a cell that is too long do not fit. -/
theorem fault?_eq {n : Nat} {lines : List (List Text)} (h : n + lines.length ≤ maxRows) :
    fault? n lines =
      if ∃ line ∈ lines, ∃ t ∈ line, maxChars < t.length then some .cellLimit else none := by
  induction lines generalizing n with
  | nil => simp [fault?]
  | cons line lines ih =>
    rw [List.length_cons] at h
    rw [fault?, if_neg (by omega), ih (by omega)]
    by_cases hline : ∃ t ∈ line, maxChars < t.length
    · simp [hline]
    · simp [hline]

section Cells

/-- The cell in a row and a column. Rows are counted from one and columns from zero. -/
def cell? (w : Workbook) (row column : Nat) : Option Cell :=
  match row with
  | 0 => none
  | i + 1 => (w.rows[i]?.bind (·[column]?)).join

/-- The text that a reader finds in a row and a column. -/
def textAt (w : Workbook) (row column : Nat) : Text :=
  ((w.cell? row column).map fun cell => unescaped 0 cell.text).getD []

/-- A workbook with a bold row of titles and then the lines. A cell is stored where a text is that
is not empty, and nowhere else. -/
structure Shows (w : Workbook) (titles : List Text) (lines : List (List Text)) : Prop where
  heading (j : Nat) : w.cell? 1 j = titles[j]?.map (⟨·, true⟩)
  textAt_eq {k j : Nat} {cells : List Text} {t : Text} (hk : lines[k]? = some cells)
    (hj : cells[j]? = some t) : w.textAt (k + 2) j = t
  isSome_iff {k j : Nat} {cells : List Text} {t : Text} (hk : lines[k]? = some cells)
    (hj : cells[j]? = some t) : (w.cell? (k + 2) j).isSome ↔ t ≠ []
  within {i j : Nat} {cell : Cell} (h : w.cell? i j = some cell) :
    i = 1 ∧ j < titles.length ∨ ∃ k cells, i = k + 2 ∧ lines[k]? = some cells ∧ j < cells.length
  bold_iff {i j : Nat} {cell : Cell} (h : w.cell? i j = some cell) : cell.bold = true ↔ i = 1

theorem of?_eq_some {bold : Bool} {t : Text} {cell : Cell} (h : Cell.of? bold t = some cell) :
    cell = ⟨stored t, bold⟩ := by
  unfold Cell.of? at h
  split at h
  · cases h
  · exact (Option.some.inj h).symm

section Rows

variable {w : Workbook} {titles : List Text} {lines : List (List Text)}
  (h : w.rows = titles.map (Cell.of? true) :: lines.map (·.map (Cell.of? false)))

include h

theorem cell?_heading (j : Nat) : w.cell? 1 j = titles[j]?.bind (Cell.of? true) := by
  cases hj : titles[j]? <;> simp [cell?, h, hj]

theorem cell?_line (k j : Nat) :
    w.cell? (k + 2) j = (lines[k]?.bind (·[j]?)).bind (Cell.of? false) := by
  cases hk : lines[k]? with
  | none => simp [cell?, h, hk]
  | some cells => cases hj : cells[j]? <;> simp [cell?, h, hk, hj]

theorem cell?_eq_some {i j : Nat} {cell : Cell} (hcell : w.cell? i j = some cell) :
    (i = 1 ∧ ∃ t, titles[j]? = some t ∧ cell = ⟨stored t, true⟩) ∨
    ∃ k cells t, i = k + 2 ∧ lines[k]? = some cells ∧ cells[j]? = some t ∧
      cell = ⟨stored t, false⟩ := by
  match i with
  | 0 => cases hcell
  | 1 =>
    rw [cell?_heading h, Option.bind_eq_some_iff] at hcell
    obtain ⟨t, hj, ht⟩ := hcell
    exact Or.inl ⟨rfl, t, hj, of?_eq_some ht⟩
  | k + 2 =>
    rw [cell?_line h, Option.bind_eq_some_iff] at hcell
    obtain ⟨t, hkj, ht⟩ := hcell
    obtain ⟨cells, hk, hj⟩ := Option.bind_eq_some_iff.1 hkj
    exact Or.inr ⟨k, cells, t, rfl, hk, hj, of?_eq_some ht⟩

/-- Rows of cells show the texts that they were made of. -/
theorem shows_of_rows (htitles : ∀ t ∈ titles, Cell.of? true t = some ⟨t, true⟩) :
    w.Shows titles lines where
  heading j := by
    rw [cell?_heading h]
    cases hj : titles[j]? with
    | none => rfl
    | some t => exact htitles t (List.mem_of_getElem? hj)
  textAt_eq {k j cells t} hk hj := by
    have hcell : w.cell? (k + 2) j = Cell.of? false t := by simp [cell?_line h, hk, hj]
    rw [textAt, hcell]
    cases t with
    | nil => rfl
    | cons c t => exact unescaped_stored (c :: t)
  isSome_iff {k j cells t} hk hj := by
    rw [cell?_line h, hk, Option.bind_some, hj, Option.bind_some]
    cases t <;> simp [Cell.of?]
  within {i j cell} hcell := by
    rcases cell?_eq_some h hcell with ⟨hi, t, hj, -⟩ | ⟨k, cells, t, hi, hk, hj, -⟩
    · exact Or.inl ⟨hi, (List.getElem?_eq_some_iff.1 hj).1⟩
    · exact Or.inr ⟨k, cells, hi, hk, (List.getElem?_eq_some_iff.1 hj).1⟩
  bold_iff {i j cell} hcell := by
    rcases cell?_eq_some h hcell with ⟨rfl, t, -, rfl⟩ | ⟨k, cells, t, rfl, -, -, rfl⟩ <;> simp

end Rows

/-- No title needs an escape. -/
theorem of?_title (p : Projection) : ∀ t ∈ p.titles, Cell.of? true t = some ⟨t, true⟩ := by
  cases p <;> decide

theorem render_eq_ok {rows : List Row} {p : Projection} {w : Workbook}
    (h : render rows p = .ok w) : w.sheet = sheetName ∧ w.frozen = 1 ∧
      w.rows = p.titles.map (Cell.of? true) ::
        (rows.map (Row.cells · p)).map (·.map (Cell.of? false)) := by
  unfold render at h
  simp only at h
  split at h
  · cases h
  · cases h
    exact ⟨rfl, rfl, rfl⟩

/-- Rows that are not too many fit if and only if no cell is too long. -/
theorem render_cases {rows : List Row} (h : rows.length < maxRows) (p : Projection) :
    (render rows p = .error .cellLimit ∧
      ∃ row ∈ rows, ∃ t ∈ row.cells p, maxChars < t.length) ∨
    ((∃ w, render rows p = .ok w) ∧ ¬ ∃ row ∈ rows, ∃ t ∈ row.cells p, maxChars < t.length) := by
  have hfault : fault? 1 (rows.map (Row.cells · p)) = _ :=
    fault?_eq (by rw [List.length_map]; omega)
  simp only [List.mem_map, exists_exists_and_eq_and] at hfault
  unfold render
  by_cases hlong : ∃ row ∈ rows, ∃ t ∈ row.cells p, maxChars < t.length
  · rw [if_pos hlong] at hfault
    exact Or.inl ⟨by simp only [hfault], hlong⟩
  · rw [if_neg hlong] at hfault
    refine Or.inr ⟨?_, hlong⟩
    simp only [hfault]
    exact ⟨_, rfl⟩

end Cells

end Workbook

/-- A sheet of at most 1048575 rows can be rendered as a workbook unless a cell has more than 32767
characters. The workbook shows the titles and below them the rows, whatever their cells hold. -/
theorem Format.xlsx_shows {rows : List Row} (h : rows.length ≤ 1048575) (p : Projection) :
    ((∃ f, xlsx.render true rows p = .error f) ↔
      ∃ row ∈ rows, ∃ t ∈ row.cells p, 32767 < t.length) ∧
    (∀ f, xlsx.render true rows p = .error f → f = .serialization
      "XLSX encoding failed: String exceeds Excel's limit of 32,767 characters.".toList) ∧
    ∀ c, xlsx.render true rows p = .ok c → ∃ w, c = .workbook w ∧
      w.sheet = "DB Definition".toList ∧ w.Shows p.titles (rows.map (Row.cells · p)) := by
  have hmax : rows.length < Workbook.maxRows := by
    unfold Workbook.maxRows
    omega
  rcases Workbook.render_cases hmax p with ⟨hrender, hlong⟩ | ⟨⟨w, hrender⟩, hlong⟩
  · have hformat : xlsx.render true rows p = .error (.serialization
        "XLSX encoding failed: String exceeds Excel's limit of 32,767 characters.".toList) := by
      simp only [render, hrender]
      rfl
    rw [hformat]
    refine ⟨⟨fun _ => hlong, fun _ => ⟨_, rfl⟩⟩, fun f hf => ?_, fun c hc => ?_⟩
    · exact (Except.error.inj hf).symm
    · cases hc
  · have hformat : xlsx.render true rows p = .ok (.workbook w) := by
      simp only [render, hrender, if_true]
    obtain ⟨hsheet, -, hrows⟩ := Workbook.render_eq_ok hrender
    rw [hformat]
    refine ⟨⟨fun hf => ?_, fun hl => absurd hl hlong⟩, fun f hf => ?_, fun c hc => ?_⟩
    · obtain ⟨f, hf⟩ := hf
      cases hf
    · cases hf
    · exact ⟨w, (Except.ok.inj hc).symm, hsheet,
        Workbook.shows_of_rows hrows (Workbook.of?_title p)⟩

/-- A row with escapes that overlap, one cut short by a control character, and an empty cell. -/
def Row.overlapping : Row where
  table := "_x0041_x0042_".toList
  column := { name := "_x000\x01_x0041".toList, dataType := [] }

theorem Format.xlsx_shows_overlapping : [Row.overlapping].length ≤ 1048575 ∧
    ∃ w, xlsx.render true [Row.overlapping] .minimal = .ok (.workbook w) ∧
      w.textAt 2 0 = "_x0041_x0042_".toList ∧ w.textAt 2 1 = "_x000\x01_x0041".toList ∧
      w.cell? 2 2 = none := by
  have hlen : [Row.overlapping].length ≤ 1048575 := by decide
  obtain ⟨herror, -, hok⟩ := xlsx_shows hlen .minimal
  refine ⟨hlen, ?_⟩
  cases hrender : xlsx.render true [Row.overlapping] .minimal with
  | error f => exact absurd (herror.1 ⟨f, hrender⟩) (by decide)
  | ok c =>
    obtain ⟨w, rfl, -, hshows⟩ := hok c hrender
    refine ⟨w, rfl, hshows.textAt_eq (k := 0) rfl rfl, hshows.textAt_eq (k := 0) rfl rfl, ?_⟩
    have hempty := hshows.isSome_iff (k := 0) (j := 2) (t := []) rfl rfl
    simpa using hempty

end SchemaSheet
