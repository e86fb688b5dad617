import Mathlib.Data.List.Forall2
import SchemaSheet.Proofs.Text
import SchemaSheet.Sheet.Csv

/-! Reading comma separated values back. A reader takes one character at a time; whatever a field
holds, its written form leaves the reader where the field is complete, so that the records that are
read are the lines that were written. -/

namespace SchemaSheet.Csv

open Text

inductive Spot where
  | start
  /-- In a field that does not begin with a quote. -/
  | bare
  | quoted
  /-- Behind a quote that ends the field, unless another one follows. -/
  | ended
  deriving DecidableEq, Repr

structure Reader where
  records : List (List Text) := []
  /-- The fields of the record so far, and the characters of the next one. -/
  fields : List Text := []
  field : Text := []
  spot : Spot := .start
  deriving DecidableEq, Repr

namespace Reader

def endField (r : Reader) : Reader :=
  { r with fields := r.fields ++ [r.field], field := [], spot := .start }

def endRecord (r : Reader) : Reader :=
  { records := r.records ++ [r.fields ++ [r.field]] }

def takeBare (r : Reader) (c : Char) : Reader :=
  if c = ',' then r.endField
  else if c = '\n' then r.endRecord
  else { r with field := r.field ++ [c], spot := .bare }

/-- Takes a character; behind a quoted field only a separator may follow. -/
def take (r : Reader) (c : Char) : Option Reader :=
  match r.spot with
  | .start => some (if c = '"' then { r with spot := .quoted } else r.takeBare c)
  | .bare => some (r.takeBare c)
  | .quoted =>
    some (if c = '"' then { r with spot := .ended } else { r with field := r.field ++ [c] })
  | .ended =>
    if c = '"' then some { r with field := r.field ++ ['"'], spot := .quoted }
    else if c = ',' ∨ c = '\n' then some (r.takeBare c)
    else none

/-- The records at the end of the text; the last one need not be ended. -/
def close (r : Reader) : Option (List (List Text)) :=
  match r.spot with
  | .quoted => none
  | .start => some (if r.fields = [] then r.records else r.endRecord.records)
  | .bare | .ended => some r.endRecord.records

end Reader

/-- The records of a text. -/
def read? (t : Text) : Option (List (List Text)) := do
  (← t.foldlM Reader.take {}).close

theorem of_needsQuotes_cons {c : Char} {t : Text} (h : needsQuotes (c :: t) = false) :
    c ≠ ',' ∧ c ≠ '"' ∧ c ≠ '\n' ∧ needsQuotes t = false := by
  simp only [needsQuotes, List.any_cons, Bool.or_eq_false_iff, beq_eq_false_iff_ne] at h
  exact ⟨h.1.1.1.1, h.1.1.1.2, h.1.2, h.2⟩

namespace Reader

theorem take_quoted (r : Reader) (field : Text) {c : Char} (h : c ≠ '"') :
    take { r with field := field, spot := .quoted } c =
      some { r with field := field ++ [c], spot := .quoted } := by
  simp [take, h]

theorem foldlM_doubled (r : Reader) (field t : Text) :
    (doubled t).foldlM take { r with field := field, spot := .quoted } =
      some { r with field := field ++ t, spot := .quoted } := by
  induction t generalizing field with
  | nil => simp [doubled]
  | cons c t ih =>
    have hcons : doubled (c :: t) = (if c = '"' then ['"', '"'] else [c]) ++ doubled t := rfl
    rw [hcons, List.foldlM_append]
    by_cases h : c = '"'
    · have := ih (field ++ ['"'])
      simp only [h, if_true, List.foldlM_cons, List.foldlM_nil, take, Option.bind_eq_bind,
        Option.bind_some, Option.pure_def] at this ⊢
      rw [this]
      simp
    · rw [if_neg h, List.foldlM_cons, take_quoted r field h]
      simp [ih (field ++ [c])]

theorem foldlM_bare (r : Reader) (field t : Text) (h : needsQuotes t = false) :
    t.foldlM take { r with field := field, spot := .bare } =
      some { r with field := field ++ t, spot := .bare } := by
  induction t generalizing field with
  | nil => simp
  | cons c t ih =>
    obtain ⟨hcomma, -, hfeed, ht⟩ := of_needsQuotes_cons h
    have := ih (field ++ [c]) ht
    simp only [List.foldlM_cons, take, takeBare, hcomma, hfeed, if_false, Option.bind_eq_bind,
      Option.bind_some, this]
    simp

/-- A written field brings the reader to where the field may end. -/
theorem foldlM_ofField (r : Reader) (f : Text) :
    ∃ spot, spot ≠ .quoted ∧ (ofField f).foldlM take { r with field := [], spot := .start } =
      some { r with field := f, spot := spot } := by
  unfold ofField
  cases hq : needsQuotes f with
  | true =>
    refine ⟨.ended, by decide, ?_⟩
    have := foldlM_doubled r [] f
    rw [if_pos rfl, List.cons_append, List.foldlM_cons]
    simp only [take, if_true, Option.bind_eq_bind, Option.bind_some]
    rw [List.foldlM_append, this]
    simp [take]
  | false =>
    rw [if_neg Bool.false_ne_true]
    cases f with
    | nil => exact ⟨.start, by decide, by simp⟩
    | cons c f =>
      obtain ⟨hcomma, hquote, hfeed, hf⟩ := of_needsQuotes_cons hq
      refine ⟨.bare, by decide, ?_⟩
      have := foldlM_bare r [c] f hf
      rw [List.foldlM_cons]
      simp only [take, takeBare, hcomma, hquote, hfeed, if_false, Option.bind_eq_bind,
        Option.bind_some, List.nil_append, this]
      simp

theorem take_separator (r : Reader) {c : Char} (hc : c = ',' ∨ c = '\n')
    (h : r.spot ≠ .quoted) : r.take c = some (r.takeBare c) := by
  have hquote : c ≠ '"' := by
    rcases hc with rfl | rfl <;> decide
  unfold take
  cases hs : r.spot with
  | start => simp [hquote]
  | bare => rfl
  | quoted => exact absurd hs h
  | ended => simp [hquote, hc]

theorem foldlM_joined (records : List (List Text)) (before : List Text) {fs : List Text}
    (h : fs ≠ []) :
    (joined [','] (fs.map ofField) ++ ['\n']).foldlM take ⟨records, before, [], .start⟩ =
      some ⟨records ++ [before ++ fs], [], [], .start⟩ := by
  induction fs generalizing before with
  | nil => exact absurd rfl h
  | cons f fs ih =>
    obtain ⟨spot, hspot, hf⟩ := foldlM_ofField ⟨records, before, [], .start⟩ f
    by_cases hfs : fs = []
    · rw [hfs, List.map_singleton, joined, List.foldlM_append, hf]
      simp only [Option.bind_eq_bind, Option.bind_some, List.foldlM_cons, List.foldlM_nil]
      rw [take_separator _ (Or.inr rfl) hspot]
      simp [takeBare, endRecord]
    · have hline : joined [','] ((f :: fs).map ofField) ++ ['\n'] =
          ofField f ++ (',' :: (joined [','] (fs.map ofField) ++ ['\n'])) := by
        rw [List.map_cons, joined_cons _ _ (by simpa using hfs)]
        simp
      rw [hline, List.foldlM_append, hf]
      simp only [Option.bind_eq_bind, Option.bind_some, List.foldlM_cons]
      rw [take_separator _ (Or.inl rfl) hspot]
      have := ih (before ++ [f]) hfs
      simp only [takeBare, if_true, endField, Option.bind_some, this]
      simp

theorem foldlM_flatMap_ofLine (records lines : List (List Text)) (h : ∀ l ∈ lines, l ≠ []) :
    (lines.flatMap ofLine).foldlM take ⟨records, [], [], .start⟩ =
      some ⟨records ++ lines, [], [], .start⟩ := by
  induction lines generalizing records with
  | nil => simp
  | cons l lines ih =>
    rw [List.flatMap_cons, List.foldlM_append, ofLine,
      foldlM_joined records [] (h l List.mem_cons_self), Option.bind_eq_bind, Option.bind_some,
      List.nil_append, ih _ fun m hm => h m (List.mem_cons_of_mem l hm)]
    simp

end Reader

theorem read?_flatMap_ofLine {lines : List (List Text)} (h : ∀ l ∈ lines, l ≠ []) :
    read? (lines.flatMap ofLine) = some lines := by
  rw [read?, Reader.foldlM_flatMap_ofLine [] lines h]
  rfl

theorem fields_ne_nil {rows : List Row} {p : Projection} {fields : List Text}
    (h : fields ∈ p.titles :: rows.map (Row.cells · p)) : fields ≠ [] := by
  rcases List.mem_cons.1 h with rfl | h
  · simpa [Projection.titles] using p.headings_ne_nil
  · obtain ⟨row, -, rfl⟩ := List.mem_map.1 h
    simpa [Row.cells] using p.headings_ne_nil

/-- A sheet can be rendered, and its records are its titles and the cells of its rows. -/
theorem read?_render (rows : List Row) (p : Projection) :
    ∃ t, render rows p = .ok t ∧ read? t = some (p.titles :: rows.map (Row.cells · p)) := by
  refine ⟨_, render_eq_ok rows p, read?_flatMap_ofLine ?_⟩
  intro fields hfields
  exact fields_ne_nil hfields

theorem not_mem_ofField {f : Text} (h : '\n' ∉ f) : '\n' ∉ ofField f := by
  have hdoubled : '\n' ∉ doubled f := by
    unfold doubled
    rw [List.mem_flatMap]
    rintro ⟨c, hc, hmem⟩
    split at hmem
    · exact absurd hmem (by decide)
    · rw [List.mem_singleton] at hmem
      exact h (hmem ▸ hc)
  unfold ofField
  split
  · simpa using hdoubled
  · exact h

/-- Fields without line feeds make a line of the text, however they are quoted. -/
theorem not_mem_joined_ofField {fields : List Text} (h : ∀ f ∈ fields, '\n' ∉ f) :
    '\n' ∉ joined [','] (fields.map ofField) := by
  apply not_mem_joined (by decide)
  intro g hg
  obtain ⟨f, hf, rfl⟩ := List.mem_map.1 hg
  exact not_mem_ofField (h f hf)

/-- The lines of the text are the records, one for one: each, read alone, is its record. -/
def LineByLine (t : Text) (records : List (List Text)) : Prop :=
  ∃ ls, lines t = ls ++ [[]] ∧
    List.Forall₂ (fun l fields => read? (l ++ ['\n']) = some [fields]) ls records

theorem LineByLine.count_eq {t : Text} {records : List (List Text)} (h : LineByLine t records) :
    t.count '\n' = records.length := by
  obtain ⟨ls, hlines, hread⟩ := h
  have hcount := length_pieces '\n' t
  have hlength := hread.length_eq
  rw [← lines, hlines, List.length_append, List.length_singleton] at hcount
  omega

theorem lineByLine_flatMap_ofLine {records : List (List Text)}
    (hne : ∀ fields ∈ records, fields ≠ []) (h : ∀ fields ∈ records, ∀ f ∈ fields, '\n' ∉ f) :
    LineByLine (records.flatMap ofLine) records := by
  refine ⟨records.map fun fields => joined [','] (fields.map ofField), ?_, ?_⟩
  · have hended : records.flatMap ofLine =
        (records.map fun fields => joined [','] (fields.map ofField)).flatMap (· ++ ['\n']) := by
      rw [List.flatMap_map]
      rfl
    rw [hended]
    apply lines_flatMap_ended
    intro l hl
    obtain ⟨fields, hfields, rfl⟩ := List.mem_map.1 hl
    exact not_mem_joined_ofField (h fields hfields)
  · rw [List.forall₂_map_left_iff, List.forall₂_same]
    intro fields hfields
    have halone : read? ([fields].flatMap ofLine) = some [fields] :=
      read?_flatMap_ofLine (List.forall_mem_singleton.2 (hne fields hfields))
    rwa [List.flatMap_singleton] at halone

end SchemaSheet.Csv
