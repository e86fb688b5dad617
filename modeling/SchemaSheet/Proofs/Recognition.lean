import SchemaSheet.Proofs.CharClass
import SchemaSheet.Proofs.Line

/-! Lines against the forms of columns and headers. A form says how a line can be written, in any
way at all; the reader cuts a line from left to right, with each run as long as it can be. No way of
writing is missed, since no character is both in a name or a type and blank. Two ways of writing a
line as a column only differ in how much of the type they leave to the attributes, and the reader
leaves nothing. -/

namespace SchemaSheet

namespace Text

/-- The longest start of a text that is of one class. -/
structure LongestStart (p : Char → Bool) (t a : Text) : Prop where
  start : a <+: t
  of_class : ∀ c ∈ a, p c = true
  longest : ∀ b, b <+: t → (∀ c ∈ b, p c = true) → b <+: a

theorem longestStart_append {p : Char → Bool} {a r : Text} (ha : ∀ c ∈ a, p c = true)
    (hr : Stops p r) : LongestStart p (a ++ r) a := by
  refine ⟨List.prefix_append a r, ha, fun b hb hclass => ?_⟩
  rcases List.prefix_or_prefix_of_prefix hb (List.prefix_append a r) with hle | ⟨s, rfl⟩
  · exact hle
  · -- what is behind the run begins with a character that is not of the class
    have hstops : Stops p s := stops_of_prefix ((List.prefix_append_right_inj a).1 hb) hr
    cases s with
    | nil => simp
    | cons c s =>
      have hc := hclass c (List.mem_append_right a List.mem_cons_self)
      rw [hstops c rfl] at hc
      cases hc

end Text

namespace Line

open Text

/-- The line is a name, blanks and a type, with anything behind them. -/
structure IsColumn (line name gap type rest : Text) : Prop where
  line_eq : line = name ++ (gap ++ (type ++ rest))
  name_run : IsRun isWord name
  gap_run : IsRun isBlank gap
  type_run : IsRun isTypeChar type

/-- The line is `model`, blanks, a name and an opening brace, with nothing behind but a remark;
there may be blanks before the brace and before the remark. -/
def IsHeader (line name : Text) : Prop :=
  ∃ gap before behind remark, IsRun isBlank gap ∧ IsRun isWord name ∧
    (∀ c ∈ before, isBlank c = true) ∧ (∀ c ∈ behind, isBlank c = true) ∧
    (remark = [] ∨ "//".toList <+: remark) ∧
    line = "model".toList ++ (gap ++ (name ++ (before ++ '{' :: (behind ++ remark))))

variable {line name gap type rest : Text}

theorem Cut.isColumn (h : Cut line name gap type rest) : IsColumn line name gap type rest :=
  ⟨h.line_eq, h.name_run, h.gap_run, h.type_run⟩

theorem IsColumn.cut (h : IsColumn line name gap type rest) :
    Cut line name gap (type ++ rest.takeWhile isTypeChar) (rest.dropWhile isTypeChar) := by
  refine ⟨?_, h.name_run, h.gap_run, ?_, stops_dropWhile isTypeChar rest⟩
  · rw [List.append_assoc, List.takeWhile_append_dropWhile]
    exact h.line_eq
  · refine ⟨List.append_ne_nil_of_left_ne_nil h.type_run.1 _, fun c hc => ?_⟩
    rcases List.mem_append.1 hc with hc | hc
    · exact h.type_run.2 c hc
    · exact List.mem_takeWhile_imp hc

/-- Whatever way a line is written as a column, its name and the blanks are those of the cut. -/
theorem IsColumn.of_cut {name' gap' type' rest' : Text} (h : IsColumn line name' gap' type' rest')
    (hcut : Cut line name gap type rest) : name' = name ∧ gap' = gap ∧ type' <+: type := by
  obtain ⟨rfl, rfl, rfl, -⟩ := hcut.unique h.cut
  exact ⟨rfl, rfl, List.prefix_append _ _⟩

theorem isSome_column?_iff :
    (column? line).isSome = true ↔ ∃ name gap type rest, IsColumn line name gap type rest := by
  constructor
  · intro h
    obtain ⟨c, hc⟩ := Option.isSome_iff_exists.1 h
    obtain ⟨name, gap, type, rest, hcut, -⟩ := cut_of_column? hc
    exact ⟨name, gap, type, rest, hcut.isColumn⟩
  · rintro ⟨name, gap, type, rest, h⟩
    rw [h.cut.column?]
    rfl

theorem Cut.longestStart_name (h : Cut line name gap type rest) :
    LongestStart isWord line name := by
  rw [h.line_eq]
  exact longestStart_append h.name_run.2
    (h.gap_run.stops (fun _ => isWord_eq_false_of_isBlank) _)

theorem Cut.longestStart_gap (h : Cut line name gap type rest) :
    LongestStart isBlank (gap ++ (type ++ rest)) gap :=
  longestStart_append h.gap_run.2
    (h.type_run.stops (fun _ => isBlank_eq_false_of_isTypeChar) _)

theorem Cut.longestStart_type (h : Cut line name gap type rest) :
    LongestStart isTypeChar (type ++ rest) type :=
  longestStart_append h.type_run.2 h.rest_stops

theorem isRemark_iff {t : Text} : isRemark t = true ↔ t = [] ∨ "//".toList <+: t := by
  rw [isRemark, Bool.or_eq_true, List.isEmpty_iff, Option.isSome_iff_exists]
  exact or_congr_right (exists_congr fun r => after?_eq_some_iff.trans eq_comm)

/-- A remark is not blank where it begins. -/
theorem stops_of_remark {t : Text} (h : t = [] ∨ "//".toList <+: t) : Stops isBlank t := by
  rcases h with rfl | ⟨r, rfl⟩
  · exact stops_nil _
  · exact stops_cons (by decide)

theorem header?_eq_some_iff : header? line = some name ↔ IsHeader line name := by
  constructor
  · intro h
    unfold header? at h
    simp only [Option.bind_eq_bind, Option.bind_eq_some_iff, Prod.exists] at h
    obtain ⟨t, ht, gap, u, hu, n, tail, hn, v, hv, hname⟩ := h
    obtain ⟨rfl, hgap, -⟩ := run?_eq_some_iff.1 hu
    obtain ⟨rfl, hn, -⟩ := run?_eq_some_iff.1 hn
    have hbrace : trimStart tail = '{' :: v := eq_append_of_after? hv
    split at hname
    · next hremark =>
      cases hname
      refine ⟨gap, tail.takeWhile isBlank, v.takeWhile isBlank, trimStart v, hgap, hn,
        fun c => List.mem_takeWhile_imp, fun c => List.mem_takeWhile_imp,
        isRemark_iff.1 hremark, ?_⟩
      rw [trimStart, List.takeWhile_append_dropWhile, ← hbrace, trimStart,
        List.takeWhile_append_dropWhile]
      exact eq_append_of_after? ht
    · cases hname
  · rintro ⟨gap, before, behind, remark, hgap, hname, hbefore, hbehind, hremark, rfl⟩
    have htail : trimStart (before ++ '{' :: (behind ++ remark)) = '{' :: (behind ++ remark) :=
      dropWhile_append hbefore (stops_cons (by decide))
    have hstops : Stops isWord (before ++ '{' :: (behind ++ remark)) := by
      cases before with
      | nil => exact stops_cons (by decide)
      | cons c before =>
        exact stops_cons (isWord_eq_false_of_isBlank (hbefore c List.mem_cons_self))
    have hend : trimStart (behind ++ remark) = remark :=
      dropWhile_append hbehind (stops_of_remark hremark)
    unfold header?
    simp only [after?_append,
      run?_append hgap (hname.stops (fun _ => isBlank_eq_false_of_isWord) _),
      run?_append hname hstops, htail, Option.bind_eq_bind, Option.bind_some]
    simp [after?, hend, isRemark_iff.2 hremark]

/-- A line is recognized as a column if and only if it can be written as one, and as a header with a
name if and only if it can be written as one with this name. Of a column, the name, the blanks and
the type are each as long as they can be, and everything behind the type is read as attributes. The
characters are classed as Unicode does. -/
theorem recognized_greedily (line : Text) :
    ((column? line).isSome = true ↔ ∃ name gap type rest, IsColumn line name gap type rest) ∧
    (∀ c, column? line = some c → ∃ gap type rest,
      line = c.name ++ (gap ++ (type ++ rest)) ∧
      LongestStart isWord line c.name ∧
      LongestStart isBlank (gap ++ (type ++ rest)) gap ∧
      LongestStart isTypeChar (type ++ rest) type ∧
      c.dataType = type.filter (· != '?') ∧
      (c.nullable = true ↔ '?' ∈ type) ∧
      c.toAttributes = Attributes.ofText rest ∧
      ∀ n w t r, IsColumn line n w t r → n = c.name ∧ w = gap ∧ t <+: type) ∧
    (∀ name, header? line = some name ↔ IsHeader line name) ∧
    (∀ name name', IsHeader line name → IsHeader line name' → name = name') ∧
    ∀ c, (isWord c = true ↔ Unicode.wordCharacter.has c.toNat = true) ∧
      (isBlank c = true ↔ Unicode.whiteSpace.has c.toNat = true) := by
  refine ⟨isSome_column?_iff, fun c hc => ?_, fun name => header?_eq_some_iff, ?_, fun c => ?_⟩
  · obtain ⟨name, gap, type, rest, hcut, rfl⟩ := cut_of_column? hc
    exact ⟨gap, type, rest, hcut.line_eq, hcut.longestStart_name, hcut.longestStart_gap,
      hcut.longestStart_type, rfl, List.contains_iff_mem, rfl, fun n w t r h => h.of_cut hcut⟩
  · intro name name' h h'
    rw [← header?_eq_some_iff] at h h'
    rw [h, Option.some.injEq] at h'
    exact h'
  · rw [isWord_eq_has, isBlank_eq_has]
    exact ⟨Iff.rfl, Iff.rfl⟩

/-- A column in no ASCII letters, with an ideographic space: it can be written with a type that ends
in the middle, but not with another name. A header has its name once and for all. -/
theorem recognized_greedily_unicode :
    let line : Text := "٣é\u3000[ж?]Ω@id".toList
    let header : Text := "model\u2003Ω\x7b\t// \x7b".toList
    column? line = some
      { name := "٣é".toList, dataType := "[ж]Ω".toList, nullable := true, primaryKey := true } ∧
    IsColumn line "٣é".toList ['\u3000'] "[ж".toList "?]Ω@id".toList ∧
    (∀ n w t r, IsColumn line n w t r → n = "٣é".toList ∧ w = ['\u3000']) ∧
    IsHeader header ['Ω'] ∧ ∀ name, IsHeader header name → name = ['Ω'] := by
  intro line header
  have hcolumn : column? line = some
      { name := "٣é".toList, dataType := "[ж]Ω".toList, nullable := true, primaryKey := true } := by
    decide +kernel
  have hway : IsColumn line "٣é".toList ['\u3000'] "[ж".toList "?]Ω@id".toList :=
    ⟨by decide, by decide +kernel, by decide, by decide +kernel⟩
  obtain ⟨gap, type, rest, -, -, -, -, -, -, -, hall⟩ := (recognized_greedily line).2.1 _ hcolumn
  obtain ⟨-, rfl, -⟩ := hall _ _ _ _ hway
  obtain ⟨-, -, hheader, hunique, -⟩ := recognized_greedily header
  have hname : IsHeader header ['Ω'] := (hheader ['Ω']).1 (by decide +kernel)
  exact ⟨hcolumn, hway, fun n w t r h => ⟨(hall n w t r h).1, (hall n w t r h).2.1⟩, hname,
    fun name h => hunique name ['Ω'] h hname⟩

end Line

end SchemaSheet
