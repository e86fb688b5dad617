import SchemaSheet.Proofs.Text

/-! How a line is cut into name, blanks, type and attributes, in the one way there is. A header is
also such a line: its first name is `model` and its type is the name of the model, so that a header
inside a model never goes without its column. -/

namespace SchemaSheet.Line

open Text

theorem isTypeChar_of_isWord {c : Char} (h : isWord c = true) : isTypeChar c = true := by
  simp [isTypeChar, h]

theorem isTypeChar_eq_false_of_isBlank {c : Char} (h : isBlank c = true) :
    isTypeChar c = false := by
  have hne (d : Char) (hd : isBlank d = false) : c ≠ d := by
    rintro rfl
    rw [hd] at h
    cases h
  simp [isTypeChar, isWord_eq_false_of_isBlank h, hne '[' (by decide), hne ']' (by decide),
    hne '?' (by decide)]

theorem isBlank_eq_false_of_isTypeChar {c : Char} (h : isTypeChar c = true) :
    isBlank c = false := by
  cases hb : isBlank c
  · rfl
  · rw [isTypeChar_eq_false_of_isBlank hb] at h
    cases h

/-- A line cut into the runs that declare a column, each as long as it can be, and the rest. -/
structure Cut (line name gap type rest : Text) : Prop where
  line_eq : line = name ++ (gap ++ (type ++ rest))
  name_run : IsRun isWord name
  gap_run : IsRun isBlank gap
  type_run : IsRun isTypeChar type
  rest_stops : Stops isTypeChar rest

namespace Cut

variable {line name gap type rest : Text}

theorem run_name (h : Cut line name gap type rest) :
    run? isWord line = some (name, gap ++ (type ++ rest)) := by
  rw [h.line_eq]
  exact run?_append h.name_run (h.gap_run.stops (fun _ => isWord_eq_false_of_isBlank) _)

theorem run_gap (h : Cut line name gap type rest) :
    run? isBlank (gap ++ (type ++ rest)) = some (gap, type ++ rest) :=
  run?_append h.gap_run (h.type_run.stops (fun _ => isBlank_eq_false_of_isTypeChar) _)

theorem run_type (h : Cut line name gap type rest) :
    run? isTypeChar (type ++ rest) = some (type, rest) :=
  run?_append h.type_run h.rest_stops

theorem unique {name' gap' type' rest' : Text} (h : Cut line name gap type rest)
    (h' : Cut line name' gap' type' rest') :
    name = name' ∧ gap = gap' ∧ type = type' ∧ rest = rest' := by
  have hname := h.run_name.symm.trans h'.run_name
  simp only [Option.some.injEq, Prod.mk.injEq] at hname
  have hgap := h.run_gap
  rw [hname.2, h'.run_gap] at hgap
  simp only [Option.some.injEq, Prod.mk.injEq] at hgap
  have htype := h.run_type
  rw [← hgap.2, h'.run_type] at htype
  simp only [Option.some.injEq, Prod.mk.injEq] at htype
  exact ⟨hname.1, hgap.1.symm, htype.1.symm, htype.2.symm⟩

theorem column? (h : Cut line name gap type rest) :
    column? line = some { Attributes.ofText rest with
      name := name
      dataType := type.filter (· != '?')
      nullable := type.contains '?' } := by
  unfold Line.column?
  simp only [h.run_name, h.run_gap, h.run_type, Option.bind_eq_bind, Option.bind_some]
  rfl

end Cut

/-- A line that declares a column is cut in one way, and the column is read off the parts. -/
theorem cut_of_column? {line : Text} {c : Column} (h : column? line = some c) :
    ∃ name gap type rest, Cut line name gap type rest ∧ c = { Attributes.ofText rest with
      name := name
      dataType := type.filter (· != '?')
      nullable := type.contains '?' } := by
  unfold column? at h
  simp only [Option.bind_eq_bind, Option.bind_eq_some_iff, Prod.exists] at h
  obtain ⟨name, t, ht, gap, u, hu, type, rest, hrest, hc⟩ := h
  obtain ⟨rfl, hname, -⟩ := run?_eq_some_iff.1 ht
  obtain ⟨rfl, hgap, -⟩ := run?_eq_some_iff.1 hu
  obtain ⟨rfl, htype, hstops⟩ := run?_eq_some_iff.1 hrest
  exact ⟨name, gap, type, rest, ⟨rfl, hname, hgap, htype, hstops⟩, (Option.some.inj hc).symm⟩

theorem stops_of_trimStart {t : Text} (h : (trimStart t).head? = some '{') :
    Stops isTypeChar t := by
  cases t with
  | nil => exact stops_nil _
  | cons c t =>
    cases hc : isBlank c
    · rw [trimStart_eq_self (stops_cons hc)] at h
      cases h
      exact stops_cons (by decide)
    · exact stops_cons (isTypeChar_eq_false_of_isBlank hc)

/-- A header is cut at `model` and at its name, and a brace follows. -/
theorem cut_of_header? {line name : Text} (h : header? line = some name) :
    ∃ gap tail, Cut line "model".toList gap name tail ∧ (trimStart tail).head? = some '{' := by
  unfold header? at h
  simp only [Option.bind_eq_bind, Option.bind_eq_some_iff, Prod.exists] at h
  obtain ⟨t, ht, gap, u, hu, n, tail, hn, v, hv, hname⟩ := h
  obtain ⟨rfl, hgap, -⟩ := run?_eq_some_iff.1 hu
  obtain ⟨rfl, hn, -⟩ := run?_eq_some_iff.1 hn
  have hbrace : (trimStart tail).head? = some '{' := by
    rw [eq_append_of_after? hv]
    rfl
  split at hname
  · cases hname
    exact ⟨gap, tail, ⟨eq_append_of_after? ht, by decide, hgap,
      ⟨hn.1, fun c hc => isTypeChar_of_isWord (hn.2 c hc)⟩, stops_of_trimStart hbrace⟩, hbrace⟩
  · cases hname

theorem isRun_of_header? {line name : Text} (h : header? line = some name) :
    IsRun isWord name := by
  unfold header? at h
  simp only [Option.bind_eq_bind, Option.bind_eq_some_iff, Prod.exists] at h
  obtain ⟨t, -, gap, u, -, n, tail, hn, v, -, hname⟩ := h
  split at hname
  · cases hname
    exact (run?_eq_some_iff.1 hn).2.1
  · cases hname

/-- A header declares a column all the same. -/
theorem column?_of_header? {line name : Text} (h : header? line = some name) :
    (column? line).isSome = true := by
  obtain ⟨gap, tail, hcut, -⟩ := cut_of_header? h
  rw [hcut.column?]
  rfl

theorem Cut.header?_eq_none {line name gap type rest : Text} (h : Cut line name gap type rest)
    (hrest : (trimStart rest).head? ≠ some '{') : header? line = none := by
  cases hh : header? line with
  | none => rfl
  | some n =>
    obtain ⟨gap', tail, hcut, hbrace⟩ := cut_of_header? hh
    obtain ⟨-, -, -, rfl⟩ := h.unique hcut
    exact absurd hbrace hrest

/-- A line that begins with a name is neither skipped nor a closing brace. -/
theorem Cut.isSkipped {line name gap type rest : Text} (h : Cut line name gap type rest) :
    isSkipped line = false := by
  obtain ⟨c, name, rfl⟩ := List.exists_cons_of_ne_nil h.name_run.1
  have hc := h.name_run.2 c List.mem_cons_self
  have hslash := ne_of_isWord hc (d := '/') (by decide)
  have hat := ne_of_isWord hc (d := '@') (by decide)
  rw [h.line_eq]
  simp [Line.isSkipped, after?, hslash.symm, hat.symm]

theorem Cut.isClosing {line name gap type rest : Text} (h : Cut line name gap type rest) :
    isClosing line = false := by
  obtain ⟨c, name, rfl⟩ := List.exists_cons_of_ne_nil h.name_run.1
  have hbrace := ne_of_isWord (h.name_run.2 c List.mem_cons_self) (d := '}') (by decide)
  rw [h.line_eq]
  simp [Line.isClosing, hbrace]

theorem header?_of_isSkipped {line : Text} (h : isSkipped line = true) : header? line = none := by
  cases hh : header? line with
  | none => rfl
  | some name =>
    obtain ⟨gap, tail, hcut, -⟩ := cut_of_header? hh
    rw [hcut.isSkipped] at h
    cases h

theorem isClosing_of_isSkipped {line : Text} (h : isSkipped line = true) :
    isClosing line = false := by
  cases hc : isClosing line with
  | false => rfl
  | true =>
    have hbrace : line = ['}'] := by simpa [isClosing] using hc
    rw [hbrace] at h
    exact absurd h (by decide)

theorem isSkipped_eq_true_iff {line : Text} :
    isSkipped line = true ↔ line = [] ∨ "//".toList <+: line ∨ "@@".toList <+: line := by
  have hstart (s : Text) : (after? s line).isSome = true ↔ s <+: line := by
    rw [Option.isSome_iff_exists]
    exact exists_congr fun t => after?_eq_some_iff.trans eq_comm
  rw [isSkipped, Bool.or_eq_true, Bool.or_eq_true, List.isEmpty_iff, hstart, hstart, or_assoc]

end SchemaSheet.Line
