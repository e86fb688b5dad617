import SchemaSheet.Proofs.Notices
import SchemaSheet.Proofs.Prefix

/-! Types without a word. The class of characters that a type is made of has the brackets and the
question mark in it, so a line of a model whose type is nothing else declares a column like any
other: brackets are all that is left of its type, or nothing, and no notice tells. These lines are
the only ones to which columns without a word in their type go back. -/

namespace SchemaSheet

open Text

namespace Line

/-- What stands where a line has its type is brackets and question marks only. -/
def IsBare (line : Text) : Prop :=
  ∃ name gap type rest, Cut line name gap type rest ∧ ∀ d ∈ type, isWord d = false

/-- The question marks that a type loses are no part of its words. -/
theorem isBare_iff {line : Text} {c : Column} (h : column? line = some c) :
    IsBare line ↔ ∀ d ∈ c.dataType, isWord d = false := by
  obtain ⟨name, gap, type, rest, hcut, rfl⟩ := cut_of_column? h
  constructor
  · rintro ⟨name', gap', type', rest', hcut', hbare⟩ d hd
    obtain ⟨-, -, rfl, -⟩ := hcut.unique hcut'
    exact hbare d (List.mem_filter.1 hd).1
  · intro hbare
    refine ⟨name, gap, type, rest, hcut, fun d hd => ?_⟩
    by_cases hmark : d = '?'
    · rw [hmark]
      decide
    · exact hbare d (List.mem_filter.2 ⟨hd, by simpa using hmark⟩)

/-- A line without a word in its type declares a column, whose type is brackets or nothing. -/
theorem IsBare.column? {line : Text} (h : IsBare line) :
    ∃ c, Line.column? line = some c ∧ ∀ d ∈ c.dataType, d = '[' ∨ d = ']' := by
  obtain ⟨name, gap, type, rest, hcut, hbare⟩ := h
  refine ⟨_, hcut.column?, fun d hd => ?_⟩
  obtain ⟨hmem, hmark⟩ := List.mem_filter.1 hd
  have hchar := hcut.type_run.2 d hmem
  simp only [isTypeChar, hbare d hmem, Bool.false_or, Bool.or_eq_true, beq_iff_eq] at hchar
  rcases hchar with hbracket | hquestion
  · exact hbracket
  · rw [hquestion] at hmark
    cases hmark

theorem IsBare.header?_eq_none {line : Text} (h : IsBare line) : header? line = none := by
  cases hh : header? line with
  | none => rfl
  | some n =>
    obtain ⟨name, gap, type, rest, hcut, hbare⟩ := h
    obtain ⟨gap', tail, hcut', -⟩ := cut_of_header? hh
    obtain ⟨-, -, rfl, -⟩ := hcut.unique hcut'
    obtain ⟨d, type, rfl⟩ := List.exists_cons_of_ne_nil hcut.type_run.1
    have hword := (isRun_of_header? hh).2 d List.mem_cons_self
    rw [hbare d List.mem_cons_self] at hword
    cases hword

end Line

theorem Reader.complaints_of_isBare {line : Text} (h : Line.IsBare line) (model : Text) (n : Nat) :
    complaints model n line = [] := by
  obtain ⟨c, hc, -⟩ := h.column?
  simp [complaints, h.header?_eq_none, hc]

namespace Block

theorem noticesAt_of_isBare {bs : List Block} {line : Text} (hopen : (open? bs).isSome = true)
    (h : Line.IsBare line) (n : Nat) : noticesAt bs n line = [] := by
  obtain ⟨b, hb⟩ := Option.isSome_iff_exists.1 hopen
  simp only [noticesAt, hb, Reader.complaints_of_isBare h, ite_self]

theorem mem_candidates_of_isCandidate {before : List Text} {line : Text}
    (h : isCandidate (split 1 before) line = true) (after : List Text) :
    ∃ b ∈ split 1 (before ++ line :: after), line ∈ b.candidates := by
  simp only [isCandidate, Bool.and_eq_true, Bool.not_eq_true', Bool.or_eq_false_iff] at h
  obtain ⟨hopen, hclosing, hskipped⟩ := h
  obtain ⟨b, hb⟩ := Option.isSome_iff_exists.1 hopen
  obtain ⟨hbs, hclosed⟩ := eq_concat_of_open? hb
  generalize (split 1 before).dropLast = init at hbs
  have hgrown : split 1 (before ++ [line]) = init ++ [b.extended line] := by
    rw [split_concat, hbs, grown_concat _ _ _ hclosed]
  obtain ⟨b', rest, hsplit, -, hbody⟩ := split_append_of_open hgrown after
  have hline : line ∈ b'.body := hbody.subset (by simp [extended, hclosing])
  refine ⟨b', ?_, List.mem_filter.2 ⟨hline, by simp [hskipped]⟩⟩
  rw [List.append_assoc, List.singleton_append] at hsplit
  rw [hsplit]
  simp

theorem exists_isCandidate {lines : List Text} {b : Block} (hb : b ∈ split 1 lines) {line : Text}
    (h : line ∈ b.candidates) :
    ∃ before after, lines = before ++ line :: after ∧
      isCandidate (split 1 before) line = true := by
  induction lines using List.reverseRecOn generalizing b with
  | nil => simp at hb
  | append_singleton lines last ih =>
    have hkeep (c : Block) (hc : c ∈ split 1 lines) (hline : line ∈ c.candidates) :
        ∃ before after, lines ++ [last] = before ++ line :: after ∧
          isCandidate (split 1 before) line = true := by
      obtain ⟨before, after, rfl, hcandidate⟩ := ih hc hline
      exact ⟨before, after ++ [last], by simp, hcandidate⟩
    rw [split_concat] at hb
    rcases grown_cases (split 1 lines) (1 + lines.length) last with
      ⟨-, -, hg⟩ | ⟨name, -, -, hg⟩ | ⟨init, c, hbs, hc, hg⟩
    · rw [hg] at hb
      exact hkeep b hb h
    · rw [hg, List.mem_append, List.mem_singleton] at hb
      rcases hb with hb | rfl
      · exact hkeep b hb h
      · cases h
    · rw [hg, List.mem_append, List.mem_singleton] at hb
      rcases hb with hb | rfl
      · exact hkeep b (hbs ▸ List.mem_append_left [c] hb) h
      · have hmem : c ∈ split 1 lines := hbs ▸ List.mem_append_right init List.mem_cons_self
        obtain ⟨hbody, hskipped⟩ := List.mem_filter.1 h
        cases hclosing : Line.isClosing last with
        | true =>
          simp only [extended, hclosing, if_true] at hbody
          exact hkeep c hmem (List.mem_filter.2 ⟨hbody, hskipped⟩)
        | false =>
          simp only [extended, hclosing, Bool.false_eq_true, if_false, List.mem_append,
            List.mem_singleton] at hbody
          rcases hbody with hbody | rfl
          · exact hkeep c hmem (List.mem_filter.2 ⟨hbody, hskipped⟩)
          · refine ⟨lines, [], rfl, ?_⟩
            simpa [isCandidate, hbs, hc, hclosing] using hskipped

theorem mem_lineNotices_of_line {before after : List Text} {line : Text} {x : Notice}
    (h : x ∈ lineNotices (before ++ line :: after)) (hx : x.line = before.length + 1) :
    x ∈ noticesAt (split 1 before) (before.length + 1) line := by
  rw [← filter_line_lineNotices before line after]
  exact List.mem_filter.2 ⟨h, beq_iff_eq.2 hx⟩

/-- No notice points at a line of a model that has no word in its type. -/
theorem line_ne_of_isBare {before after : List Text} {line : Text}
    (hcandidate : isCandidate (split 1 before) line = true) (h : Line.IsBare line) {x : Notice}
    (hx : x ∈ lineNotices (before ++ line :: after) ++
      unterminated (split 1 (before ++ line :: after))) : x.line ≠ before.length + 1 := by
  intro hline
  rw [List.mem_append] at hx
  rcases hx with hx | hx
  · have hopen : (open? (split 1 before)).isSome = true := by
      rw [isCandidate, Bool.and_eq_true] at hcandidate
      exact hcandidate.1
    have := mem_lineNotices_of_line hx hline
    rw [noticesAt_of_isBare hopen h] at this
    cases this
  · -- the notice about the end points at a header
    obtain ⟨b, hb, rfl⟩ := List.mem_map.1 hx
    rw [Option.mem_toList] at hb
    have hmem : b ∈ split 1 (before ++ line :: after) := by
      rw [(eq_concat_of_open? hb).1]
      simp
    obtain ⟨header, hheader, hname⟩ := header?_opening hmem
    have hopening : b.opening = before.length + 1 := hline
    rw [hopening, Nat.add_sub_cancel, List.getElem?_append_right (le_refl _), Nat.sub_self,
      List.getElem?_cons_zero, Option.some.injEq] at hheader
    rw [← hheader, h.header?_eq_none] at hname
    cases hname

end Block

open Block

/-- All columns of a schema have a word in their type if and only if all lines that may declare one
have a word in that place. A line that has brackets and question marks only is a column all the
same: its type is brackets or nothing, and no notice points at the line. -/
theorem Table.typed_iff (schema : Text) :
    ((∀ t ∈ Table.allOf schema, ∀ c ∈ t.columns, ∃ d ∈ c.dataType, isWord d = true) ↔
      ∀ before line after, schema.trimmedLines = before ++ line :: after →
        isCandidate (split 1 before) line = true → ¬ Line.IsBare line) ∧
    ∀ before line after, schema.trimmedLines = before ++ line :: after →
      isCandidate (split 1 before) line = true → Line.IsBare line →
      (∃ t ∈ Table.allOf schema, ∃ c ∈ t.columns, Line.column? line = some c ∧
        ∀ d ∈ c.dataType, d = '[' ∨ d = ']') ∧
      ∀ x ∈ (Reading.ofText schema).notices, x.line ≠ before.length + 1 := by
  -- the column that a line declares is in the table of the model that was open before the line
  have hcolumn {before : List Text} {line : Text} {after : List Text} {c : Column}
      (hcut : schema.trimmedLines = before ++ line :: after)
      (hcandidate : isCandidate (split 1 before) line = true)
      (hc : Line.column? line = some c) : ∃ t ∈ Table.allOf schema, c ∈ t.columns := by
    obtain ⟨b, hb, hline⟩ := mem_candidates_of_isCandidate hcandidate after
    rw [Table.allOf_eq_map_split, hcut]
    exact ⟨b.table, List.mem_map_of_mem hb, List.mem_filterMap.2 ⟨line, hline, hc⟩⟩
  refine ⟨⟨fun htyped before line after hcut hcandidate hbare => ?_, fun h t ht c hc => ?_⟩,
    fun before line after hcut hcandidate hbare => ⟨?_, fun x hx => ?_⟩⟩
  · obtain ⟨c, hdeclared, -⟩ := hbare.column?
    obtain ⟨t, ht, hc⟩ := hcolumn hcut hcandidate hdeclared
    obtain ⟨d, hd, hword⟩ := htyped t ht c hc
    rw [(Line.isBare_iff hdeclared).1 hbare d hd] at hword
    cases hword
  · rw [Table.allOf_eq_map_split] at ht
    obtain ⟨b, hb, rfl⟩ := List.mem_map.1 ht
    obtain ⟨line, hline, hdeclared⟩ := List.mem_filterMap.1 hc
    obtain ⟨before, after, hcut, hcandidate⟩ := exists_isCandidate hb hline
    have hbare := h before line after hcut hcandidate
    rw [Line.isBare_iff hdeclared] at hbare
    simpa using hbare
  · obtain ⟨c, hdeclared, hbrackets⟩ := hbare.column?
    obtain ⟨t, ht, hc⟩ := hcolumn hcut hcandidate hdeclared
    exact ⟨t, ht, c, hc, hdeclared, hbrackets⟩
  · rw [Reading.ofText_eq, hcut] at hx
    exact line_ne_of_isBare hcandidate hbare hx

/-- The first of two columns is optional, and nothing else. -/
theorem Table.typed_iff_question_mark :
    let schema : Text := "model A \x7b\n a ?\n b T\n\x7d".toList
    Line.IsBare "a ?".toList ∧
    (∃ t ∈ Table.allOf schema, ∃ c ∈ t.columns, Line.column? "a ?".toList = some c ∧
      ∀ d ∈ c.dataType, d = '[' ∨ d = ']') ∧
    ∀ x ∈ (Reading.ofText schema).notices, x.line ≠ 2 := by
  intro schema
  have hbare : Line.IsBare "a ?".toList :=
    ⟨['a'], [' '], ['?'], [], ⟨rfl, by decide, by decide, by decide, stops_nil _⟩,
      List.forall_mem_singleton.2 (by decide)⟩
  have hcut : schema.trimmedLines =
      ["model A \x7b".toList] ++ "a ?".toList :: ["b T".toList, ['}']] := by decide
  exact ⟨hbare, (Table.typed_iff schema).2 _ _ _ hcut (by decide +kernel) hbare⟩

/-- The type of the column is empty, and no notice tells. -/
theorem Table.allOf_question_mark :
    let schema : Text := "model A \x7b\n a ?\n\x7d".toList
    Table.allOf schema = [⟨['A'], [{ name := ['a'], dataType := [], nullable := true }]⟩] ∧
    (Reading.ofText schema).notices = [] ∧
    ¬ ∀ t ∈ Table.allOf schema, ∀ c ∈ t.columns, ∃ d ∈ c.dataType, isWord d = true := by
  intro schema
  have htables : Table.allOf schema =
      [⟨['A'], [{ name := ['a'], dataType := [], nullable := true }]⟩] := by decide +kernel
  refine ⟨htables, by decide +kernel, fun h => ?_⟩
  rw [htables] at h
  obtain ⟨d, hd, -⟩ := h _ List.mem_cons_self _ List.mem_cons_self
  cases hd

end SchemaSheet
