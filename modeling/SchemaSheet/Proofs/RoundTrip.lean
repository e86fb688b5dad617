import SchemaSheet.Proofs.Reading
import SchemaSheet.Proofs.Surface

/-! Reading the surface form of tables. Every line of it is trimmed and holds no line feed, so the
reader takes the lines as they were written: a block of lines adds its table to those before it. -/

namespace SchemaSheet

open Text

namespace Surface

theorem typeChar_of_mem {c : Column} (h : c.WellFormed) {d : Char} (hd : d ∈ c.dataType) :
    Line.isTypeChar d = true ∧ d ≠ '?' := by
  obtain ⟨base, hbase, heq⟩ := h.type_form
  have hword (hd : d ∈ base) : Line.isTypeChar d = true ∧ d ≠ '?' :=
    ⟨Line.isTypeChar_of_isWord (hbase.2 d hd), ne_of_isWord (hbase.2 d hd) (by decide)⟩
  rcases heq with heq | heq
  · rw [heq] at hd
    exact hword hd
  · rw [heq, List.mem_append, List.mem_cons, List.mem_singleton] at hd
    rcases hd with hd | rfl | rfl
    · exact hword hd
    · decide
    · decide

theorem type_run {c : Column} (h : c.WellFormed) : IsRun Line.isTypeChar (type c) := by
  obtain ⟨base, hbase, heq⟩ := h.type_form
  constructor
  · unfold type
    rcases heq with heq | heq <;> simp [heq, hbase.1]
  · intro d hd
    rcases List.mem_append.1 hd with hd | hd
    · exact (typeChar_of_mem h hd).1
    · unfold part at hd
      split at hd
      · rw [List.mem_singleton] at hd
        rw [hd]
        decide
      · cases hd

theorem filter_type {c : Column} (h : c.WellFormed) : (type c).filter (· != '?') = c.dataType := by
  have hall : c.dataType.filter (· != '?') = c.dataType := by
    rw [List.filter_eq_self]
    intro d hd
    simpa using (typeChar_of_mem h hd).2
  rw [type, List.filter_append, hall]
  cases c.nullable <;> simp [part]

theorem contains_type {c : Column} (h : c.WellFormed) : (type c).contains '?' = c.nullable := by
  have hno : c.dataType.contains '?' = false := by
    rw [List.contains_eq_mem, decide_eq_false_iff_not]
    intro hd
    exact (typeChar_of_mem h hd).2 rfl
  rw [type, List.contains_append, hno]
  cases c.nullable <;> rfl

theorem cut_column {c : Column} (h : c.WellFormed) :
    Line.Cut (column c) c.name [' '] (type c) (attributes c.toAttributes) where
  line_eq := rfl
  name_run := h.name_run
  gap_run := by decide
  type_run := type_run h
  rest_stops := (spaced_attributes _).stops (by decide)

theorem column?_column {c : Column} (h : c.WellFormed) : Line.column? (column c) = some c := by
  rw [(cut_column h).column?, ofText_attributes h.toWellFormed, filter_type h, contains_type h]

theorem head?_trimStart_part (b : Bool) {d : Char} (hd : isBlank d = false) (s : Text) {t : Text}
    (hne : d ≠ '{') (ht : (trimStart t).head? ≠ some '{') :
    (trimStart (part b (' ' :: d :: s) ++ t)).head? ≠ some '{' := by
  cases b with
  | false => exact ht
  | true =>
    have hstart : trimStart (' ' :: d :: (s ++ t)) = d :: (s ++ t) := by
      rw [trimStart, List.dropWhile_cons_of_pos (by decide),
        List.dropWhile_cons_of_neg (by simp [hd])]
    rw [part, if_pos rfl, List.cons_append, List.cons_append, hstart]
    simpa using hne

/-- No brace follows the type of a column, so that a column is no header. -/
theorem header?_column {c : Column} (h : c.WellFormed) : Line.header? (column c) = none := by
  apply (cut_column h).header?_eq_none
  refine head?_trimStart_part _ (by decide) _ (by decide) ?_
  refine head?_trimStart_part _ (by decide) _ (by decide) ?_
  refine head?_trimStart_part _ (by decide) _ (by decide) ?_
  have := head?_trimStart_part (c.comment != []) (d := '/') (by decide)
    ("/ ".toList ++ c.comment) (by decide) (t := []) (by simp [trimStart])
  rwa [List.append_nil] at this

theorem header?_header {t : Table} (h : t.WellFormed) :
    Line.header? (header t) = some t.name := by
  have hafter := after?_append "model".toList ([' '] ++ (t.name ++ [' ', '{']))
  have hgap := Line.run?_append (p := isBlank) (a := [' ']) (r := t.name ++ [' ', '{'])
    (by decide) (h.name_run.stops (fun _ => isBlank_eq_false_of_isWord) _)
  have hname := Line.run?_append (r := [' ', '{']) h.name_run (stops_cons (by decide))
  unfold Line.header?
  simp only [header, hafter, hgap, hname, Option.bind_eq_bind, Option.bind_some]
  rfl

theorem trimEnd_part (b : Bool) {s t : Text} (hs : trimEnd s = s) (ht : trimEnd t = t) :
    trimEnd (part b s ++ t) = part b s ++ t := by
  cases b with
  | false => exact ht
  | true => exact trimEnd_append hs ht

theorem trimEnd_attributes {a : Attributes} (h : a.WellFormed) :
    trimEnd (attributes a) = attributes a := by
  have hcomment : trimEnd (comment a) = comment a := by
    unfold comment part
    split
    · next hc =>
      exact trimEnd_append_of_ne_nil _ (by simpa using hc) (trimEnd_of_trim h.comment_trim)
    · rfl
  refine trimEnd_part _ rfl (trimEnd_part _ rfl (trimEnd_part _ ?_ hcomment))
  rw [← List.append_assoc]
  exact trimEnd_append_of_ne_nil _ (List.cons_ne_nil _ _) rfl

theorem trim_column {c : Column} (h : c.WellFormed) : trim (column c) = column c := by
  have hend : trimEnd (type c ++ attributes c.toAttributes) =
      type c ++ attributes c.toAttributes := by
    refine trimEnd_append (trimEnd_eq_self fun d hd => ?_) (trimEnd_attributes h.toWellFormed)
    exact Line.isBlank_eq_false_of_isTypeChar ((type_run h).2 d hd)
  apply trim_eq_self
  · exact h.name_run.stops (fun _ => isBlank_eq_false_of_isWord) _
  · refine trimEnd_append_of_ne_nil _ (List.cons_ne_nil _ _) (trimEnd_append_of_ne_nil _ ?_ hend)
    simp [(type_run h).1]

theorem newline_not_mem_part (b : Bool) {t : Text} (h : '\n' ∉ t) : '\n' ∉ part b t := by
  cases b with
  | false => exact List.not_mem_nil
  | true => exact h

theorem newline_not_mem_attributes {a : Attributes} (h : a.WellFormed) :
    '\n' ∉ attributes a := by
  have hdefault : '\n' ∉ " @default(".toList ++ (a.defaultValue ++ [')']) := by
    simpa using h.default_line
  have hcomment : '\n' ∉ " // ".toList ++ a.comment := by
    simpa using h.comment_line
  simp only [attributes, defaultValue, comment, List.mem_append, not_or]
  exact ⟨newline_not_mem_part _ (by decide), newline_not_mem_part _ (by decide),
    newline_not_mem_part _ hdefault, newline_not_mem_part _ hcomment⟩

theorem newline_not_mem_run {p : Char → Bool} (hp : p '\n' = false) {t : Text} (h : IsRun p t) :
    '\n' ∉ t := by
  intro hmem
  have := h.2 _ hmem
  rw [hp] at this
  cases this

theorem line_form {t : Table} (h : t.WellFormed) {line : Text} (hl : line ∈ lines t) :
    trim line = line ∧ '\n' ∉ line := by
  rw [lines, List.mem_append, List.mem_cons, List.mem_map, List.mem_singleton] at hl
  rcases hl with (rfl | ⟨c, hc, rfl⟩) | rfl
  · constructor
    · have hend : trimEnd (t.name ++ [' ', '{']) = t.name ++ [' ', '{'] :=
        trimEnd_append_of_ne_nil _ (List.cons_ne_nil _ _) rfl
      refine trim_eq_self (stops_cons (by decide))
        (trimEnd_append_of_ne_nil _ (List.cons_ne_nil _ _) (trimEnd_append_of_ne_nil _ ?_ hend))
      simp
    · have hname := newline_not_mem_run (by decide) h.name_run
      simpa [header] using hname
  · have hc := h.columns c hc
    refine ⟨trim_column hc, ?_⟩
    simp only [column, List.mem_append, not_or]
    exact ⟨newline_not_mem_run (by decide) hc.name_run, by decide,
      newline_not_mem_run (by decide) (type_run hc), newline_not_mem_attributes hc.toWellFormed⟩
  · decide

theorem take_column {c : Column} (h : c.WellFormed) (m : OpenModel) (d : Reading)
    (seen : List Text) (n : Nat) :
    Reader.take ⟨some m, d, seen⟩ n (column c) =
      ⟨some { m with table := { m.table with columns := m.table.columns ++ [c] } }, d, seen⟩ := by
  simp only [Reader.take, (cut_column h).isClosing, (cut_column h).isSkipped, Bool.false_eq_true,
    if_false, Reader.field, Reader.complaints, header?_column h, column?_column h]
  simp

theorem takeAll_columns {cs : List Column} (h : ∀ c ∈ cs, c.WellFormed) (m : OpenModel)
    (d : Reading) (seen : List Text) (n : Nat) :
    Reader.takeAll ⟨some m, d, seen⟩ n (cs.map column) =
      ⟨some { m with table := { m.table with columns := m.table.columns ++ cs } }, d, seen⟩ := by
  induction cs generalizing m n with
  | nil => simp [Reader.takeAll]
  | cons c cs ih =>
    rw [List.map_cons, Reader.takeAll, take_column (h c List.mem_cons_self),
      ih fun d hd => h d (List.mem_cons_of_mem c hd)]
    simp

theorem takeAll_lines {t : Table} (h : t.WellFormed) {d : Reading} {seen : List Text}
    (htracks : Reader.Tracks ⟨none, d, seen⟩) (n : Nat) :
    Reader.takeAll ⟨none, d, seen⟩ n (lines t) =
      ⟨none, {
        tables := d.tables ++ [t]
        notices := d.notices ++
          if d.tables.any (·.name == t.name) then [.duplicate n t.name] else []
        events := d.events ++ [.opened n t.name, .finished t.name t.columns.length] },
        seen.insert t.name⟩ := by
  have hopen : Reader.take ⟨none, d, seen⟩ n (header t) =
      Reader.openModel ⟨none, d, seen⟩ n t.name := by
    simp only [Reader.take, header?_header h]
  rw [lines, List.cons_append, Reader.takeAll, hopen, Reader.openModel,
    htracks.contains_seen rfl, Reader.takeAll_append, takeAll_columns h.columns]
  simp [Reader.takeAll, Reader.take, Reader.finish, Line.isClosing]

theorem repeats_concat (ts : List Table) (t : Table) :
    repeats (ts ++ [t]) = repeats ts ++
      if ts.any (·.name == t.name) then [.duplicate (headerLine ts) t.name] else [] := by
  simp [repeats, prefixed_concat]

/-- The lines of tables give the tables, and notices of names that come again. -/
theorem takeAll_flatMap_lines {ts : List Table} (h : ∀ t ∈ ts, t.WellFormed) :
    ∃ events seen,
      Reader.takeAll {} 1 (ts.flatMap lines) = ⟨none, ⟨ts, repeats ts, events⟩, seen⟩ := by
  induction ts using List.reverseRecOn with
  | nil => exact ⟨[], [], rfl⟩
  | append_singleton ts t ih =>
    obtain ⟨events, seen, hread⟩ := ih fun u hu => h u (List.mem_append_left [t] hu)
    have ht := h t (List.mem_append_right ts (List.mem_singleton_self t))
    have htracks := Reader.tracks_takeAll (ts.flatMap lines)
    rw [hread] at htracks
    rw [List.flatMap_append, List.flatMap_singleton, Reader.takeAll_append, hread,
      takeAll_lines ht htracks, repeats_concat, headerLine]
    exact ⟨_, _, rfl⟩

theorem trimmedLines_text {ts : List Table} (h : ∀ t ∈ ts, t.WellFormed) (hne : ts ≠ []) :
    (text ts).trimmedLines = ts.flatMap lines := by
  have hform {line : Text} (hl : line ∈ ts.flatMap lines) : trim line = line ∧ '\n' ∉ line := by
    obtain ⟨t, ht, hl⟩ := List.mem_flatMap.1 hl
    exact line_form (h t ht) hl
  have hlines : Text.lines (text ts) = ts.flatMap lines := by
    apply pieces_joined
    · obtain ⟨t, ts, rfl⟩ := List.exists_cons_of_ne_nil hne
      exact List.cons_ne_nil _ _
    · exact fun line hl => (hform hl).2
  rw [trimmedLines, hlines, List.map_congr_left fun line hl => (hform hl).1, List.map_id']

/-- Behind the last table there may be empty lines, and there is one where there is no table. -/
theorem trimmedLines_text_append {ts : List Table} (h : ∀ t ∈ ts, t.WellFormed) {ending : Text}
    (he : ending ∈ [[], ['\n']]) :
    ∃ k, (text ts ++ ending).trimmedLines = ts.flatMap lines ++ List.replicate k [] := by
  rw [List.mem_cons, List.mem_singleton] at he
  by_cases hne : ts = []
  · subst hne
    rcases he with rfl | rfl
    · exact ⟨1, rfl⟩
    · exact ⟨2, rfl⟩
  · have hlines := trimmedLines_text h hne
    rcases he with rfl | rfl
    · exact ⟨0, by rw [List.append_nil, hlines, List.replicate_zero, List.append_nil]⟩
    · refine ⟨1, ?_⟩
      rw [← hlines, trimmedLines, Text.lines, pieces_append_cons, List.map_append]
      rfl

theorem takeAll_replicate (d : Reading) (seen : List Text) (n k : Nat) :
    Reader.takeAll ⟨none, d, seen⟩ n (List.replicate k []) = ⟨none, d, seen⟩ := by
  induction k generalizing n with
  | zero => rfl
  | succ k ih => exact ih (n + 1)

end Surface

/-- Reading the surface form of tables gives the tables, whether a line feed ends it or not, and one
notice for each name that an earlier table has. -/
theorem Reading.ofText_surface {ts : List Table} (h : ∀ t ∈ ts, t.WellFormed) :
    ∀ ending ∈ [[], ['\n']],
      (Reading.ofText (Surface.text ts ++ ending)).tables = ts ∧
      (Reading.ofText (Surface.text ts ++ ending)).notices = Surface.repeats ts := by
  intro ending he
  obtain ⟨k, hlines⟩ := Surface.trimmedLines_text_append h he
  obtain ⟨events, seen, hread⟩ := Surface.takeAll_flatMap_lines h
  have hclose : Reading.ofText (Surface.text ts ++ ending) = ⟨ts, Surface.repeats ts, events⟩ := by
    change (Reader.takeAll {} 1 (Surface.text ts ++ ending).trimmedLines).close = _
    rw [hlines, Reader.takeAll_append, hread, Surface.takeAll_replicate]
    rfl
  rw [hclose]
  exact ⟨rfl, rfl⟩

namespace Surface

/-- A column that is called like a keyword, with parentheses, slashes and braces where they may
mislead, and a table that has its name a second time. -/
def sample : List Table :=
  [⟨['A'], [{
      primaryKey := true
      defaultValue := ['f', '(', '"', ')', '/', '/', '\\', '"', '"', ')', '/']
      comment := ['/', ' ', '\x7d', '"', '(']
      name := "model".toList
      dataType := ['B', '[', ']']
      nullable := true }]⟩,
   ⟨['A'], []⟩]

theorem sample_wellFormed : ∀ t ∈ sample, t.WellFormed := by
  intro t ht
  simp only [sample, List.mem_cons, List.not_mem_nil, or_false] at ht
  rcases ht with rfl | rfl
  · refine ⟨by decide, fun c hc => ?_⟩
    rw [List.mem_singleton] at hc
    subst hc
    refine ⟨⟨by decide, by decide, ?_, ?_, by decide, by decide, by decide⟩, by decide,
      ['B'], by decide, Or.inr rfl⟩
    · have hliteral : Quoted [')', '/', '/', '\\', '"'] :=
        .plain (by decide) (by decide) (.plain (by decide) (by decide)
          (.plain (by decide) (by decide) (.escape '"' .nil)))
      have hgroup : Balanced ['"', ')', '/', '/', '\\', '"', '"'] := .literal hliteral .nil
      exact .plain (by decide) (by decide) (by decide)
        (.group hgroup (.plain (by decide) (by decide) (by decide) .nil))
    · exact Attributes.comment?_eq_none_iff.1 (by decide)
  · exact ⟨by decide, fun c hc => absurd hc List.not_mem_nil⟩

end Surface

theorem Reading.ofText_surface_sample :
    (∀ t ∈ Surface.sample, t.WellFormed) ∧
    (Reading.ofText (Surface.text Surface.sample)).tables = Surface.sample ∧
    (Reading.ofText (Surface.text Surface.sample)).notices = [.duplicate 4 ['A']] := by
  have h := Reading.ofText_surface Surface.sample_wellFormed [] (by decide)
  rw [List.append_nil] at h
  exact ⟨Surface.sample_wellFormed, h.1, h.2.trans (by decide)⟩

end SchemaSheet
