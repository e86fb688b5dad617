import SchemaSheet.Log
import SchemaSheet.Proofs.Concatenation

/-! What is recorded while a schema is read. Of each table it is told where it was opened, and right
behind that, before anything else, that it was finished, whichever of the two ends a model has. So
the openings stand for the tables, one for one, and their lines tell tables apart that share a
name. -/

namespace SchemaSheet

def Event.opening? : Event → Option Nat
  | .opened n _ => some n
  | .finished .. => none

def Reading.openings (r : Reading) : List Nat := r.events.filterMap Event.opening?

/-- What is logged of a table whose header is line `n`. -/
def Table.log (n : Nat) (t : Table) : List LogRecord :=
  [⟨.trace, .reader,
      "line ".toList ++ Text.ofNat n ++ ": opening model '".toList ++ t.name ++ ['\'']⟩,
    ⟨.debug, .reader,
      "model '".toList ++ t.name ++ "' finalized with ".toList ++ Text.ofNat t.columns.length ++
        " column(s)".toList⟩]

namespace Block

/-- The lines before a header hold the earlier blocks, all of which are closed. -/
theorem exists_before {n : Nat} {lines : List Text} {bs cs : List Block} {b : Block}
    (h : split n lines = bs ++ b :: cs) :
    ∃ before line after, lines = before ++ line :: after ∧ b.opening = n + before.length ∧
      Line.header? line = some b.name ∧ split n before = bs ∧ open? bs = none := by
  induction n, lines using split_induction generalizing bs with
  | nil n => simp at h
  | other n line rest hline ih =>
    rw [split_cons_of_none n rest hline] at h
    obtain ⟨before, header, after, rfl, hopening, hheader, hsplit, hopen⟩ := ih h
    refine ⟨line :: before, header, after, rfl, ?_, hheader, ?_, hopen⟩
    · rw [hopening, List.length_cons]
      omega
    · rw [split_cons_of_none n before hline, hsplit]
  | unclosed n line name rest hline hrest =>
    rw [split_cons_of_open n hline hrest] at h
    cases bs with
    | nil =>
      cases h
      exact ⟨[], line, rest, rfl, rfl, hline, split_nil n, rfl⟩
    | cons c bs => simp at h
  | closed n line name body after hline hbody ih =>
    rw [split_cons_of_closed n after hline hbody rfl] at h
    cases bs with
    | nil =>
      cases h
      exact ⟨[], line, body ++ ['}'] :: after, rfl, rfl, hline, split_nil n, rfl⟩
    | cons c bs =>
      rw [List.cons_append, List.cons.injEq] at h
      obtain ⟨rfl, h⟩ := h
      obtain ⟨before, header, rest, rfl, hopening, hheader, hsplit, hopen⟩ := ih h
      refine ⟨line :: (body ++ ['}'] :: before), header, rest, by simp, ?_, hheader, ?_, ?_⟩
      · rw [hopening, List.length_cons, List.length_append, List.length_cons]
        omega
      · rw [split_cons_of_closed n before hline hbody rfl, hsplit]
      · rw [open?_cons_of_closed _ rfl, hopen]

theorem pairwise_opening (n : Nat) (lines : List Text) :
    (split n lines).Pairwise (·.opening < ·.opening) := by
  induction n, lines using split_induction with
  | nil n => simp
  | other n line rest hline ih =>
    rw [split_cons_of_none n rest hline]
    exact ih
  | unclosed n line name rest hline hrest =>
    rw [split_cons_of_open n hline hrest]
    exact List.pairwise_singleton _ _
  | closed n line name body after hline hbody ih =>
    rw [split_cons_of_closed n after hline hbody rfl]
    refine List.pairwise_cons.2 ⟨fun b hb => ?_, ih⟩
    have := (opening_of_mem_split hb).1
    simp only
    omega

theorem exists_of_duplicate {lines : List Text} {n : Nat} {name : Text}
    (h : .duplicate n name ∈ lineNotices lines) :
    ∃ b ∈ split 1 lines, b.opening = n ∧ b.name = name := by
  have hmem : .duplicate n name ∈ repeats [] (split 1 lines) := by
    rw [← filter_isDuplicate_lineNotices]
    exact List.mem_filter.2 ⟨h, rfl⟩
  obtain ⟨b, hb, heq⟩ := exists_of_mem_repeats hmem
  rw [Notice.duplicate.injEq] at heq
  exact ⟨b, hb, heq.1.symm, heq.2.symm⟩

end Block

open Block

/-- Line `n` is the header of the table with index `i` and the name `name`: the lines before it
leave no model open, and their tables are the first `i`. -/
def Reading.HeaderAt (schema : Text) (i n : Nat) (name : Text) : Prop :=
  ∃ before line after, schema.trimmedLines = before ++ line :: after ∧ n = before.length + 1 ∧
    Line.header? line = some name ∧ open? (split 1 before) = none ∧
    (split 1 before).map Block.table = (ofText schema).tables.take i

namespace Reading

theorem openings_ofText (schema : Text) :
    (ofText schema).openings = (split 1 schema.trimmedLines).map Block.opening := by
  rw [openings, ofText_eq, List.filterMap_flatMap, List.map_eq_flatMap]
  rfl

theorem headerAt_of_getElem? {schema : Text} {i : Nat} {b : Block}
    (h : (split 1 schema.trimmedLines)[i]? = some b) : HeaderAt schema i b.opening b.name := by
  obtain ⟨hlt, hget⟩ := List.getElem?_eq_some_iff.1 h
  have hsplit : split 1 schema.trimmedLines = (split 1 schema.trimmedLines).take i ++
      b :: (split 1 schema.trimmedLines).drop (i + 1) := by
    rw [← hget, ← List.drop_eq_getElem_cons hlt, List.take_append_drop]
  obtain ⟨before, line, after, hlines, hopening, hheader, hbefore, hopen⟩ := exists_before hsplit
  refine ⟨before, line, after, hlines, by rw [hopening, Nat.add_comm], hheader, ?_, ?_⟩
  · rw [hbefore, hopen]
  · rw [hbefore, List.map_take, ofText_eq]

theorem mem_openings_of_duplicate {schema name : Text} {n : Nat}
    (h : .duplicate n name ∈ (ofText schema).notices) : n ∈ (ofText schema).openings := by
  rw [ofText_eq, List.mem_append] at h
  rcases h with h | h
  · obtain ⟨b, hb, rfl, -⟩ := exists_of_duplicate h
    rw [openings_ofText]
    exact List.mem_map_of_mem hb
  · cases isDuplicate_of_mem_unterminated h

theorem getLast?_openings_of_unterminated {schema name : Text} {n : Nat}
    (h : .unterminated n name ∈ (ofText schema).notices) :
    (ofText schema).openings.getLast? = some n := by
  rw [ofText_eq, List.mem_append] at h
  rcases h with h | h
  · cases isUnterminated_of_mem_lineNotices h
  · obtain ⟨b, hb, heq⟩ := List.mem_map.1 h
    obtain ⟨hbs, -⟩ := eq_concat_of_open? (Option.mem_toList.1 hb)
    rw [Notice.unterminated.injEq] at heq
    rw [openings_ofText, hbs, List.map_append, List.map_singleton, List.getLast?_concat, heq.1]

/-- The log of a schema tells of its tables one by one: that each was opened, at the line of its
header, and right behind that that it was finished, with all its columns. The lines grow, names that
are taken are noticed at some of them, and that a model is never closed at the last one. -/
theorem events_ofText (schema : Text) :
    let r := ofText schema
    let entries := r.openings.zip r.tables
    r.openings.length = r.tables.length ∧
    r.events = entries.flatMap (fun (n, t) => t.record n) ∧
    r.events.map LogRecord.ofEvent = entries.flatMap (fun (n, t) => t.log n) ∧
    (∀ i n t, entries[i]? = some (n, t) → HeaderAt schema i n t.name) ∧
    r.openings.Pairwise (· < ·) ∧
    (∀ n name, .duplicate n name ∈ r.notices → n ∈ r.openings) ∧
    ∀ n name, .unterminated n name ∈ r.notices → r.openings.getLast? = some n := by
  intro r entries
  have hopenings : r.openings = (split 1 schema.trimmedLines).map Block.opening :=
    openings_ofText schema
  have htables : r.tables = (split 1 schema.trimmedLines).map Block.table :=
    congrArg tables (ofText_eq schema)
  have hrecords : r.events =
      (split 1 schema.trimmedLines).flatMap fun b => b.table.record b.opening :=
    congrArg events (ofText_eq schema)
  have hentries : entries =
      (split 1 schema.trimmedLines).map fun b => (b.opening, b.table) := by
    rw [← List.zip_map', ← hopenings, ← htables]
  have hevents : r.events = entries.flatMap fun (n, t) => t.record n := by
    rw [hrecords, hentries, List.flatMap_map]
  refine ⟨?_, hevents, ?_, fun i n t hi => ?_, ?_, fun n name => mem_openings_of_duplicate,
    fun n name => getLast?_openings_of_unterminated⟩
  · rw [hopenings, htables, List.length_map, List.length_map]
  · rw [hevents, List.map_flatMap]
    rfl
  · rw [hentries, List.getElem?_map, Option.map_eq_some_iff] at hi
    obtain ⟨b, hb, heq⟩ := hi
    rw [Prod.mk.injEq] at heq
    obtain ⟨rfl, rfl⟩ := heq
    exact headerAt_of_getElem? hb
  · rw [hopenings, List.pairwise_map]
    exact pairwise_opening 1 schema.trimmedLines

/-- A model that its brace ends, and one with the same name that the end of the input ends. -/
theorem events_ofText_unclosed :
    let schema : Text := "\nmodel A \x7b\nx Int\n\x7d\nmodel A \x7b\nmodel B \x7b\ny Int".toList
    let r := ofText schema
    .duplicate 5 ['A'] ∈ r.notices ∧ .unterminated 5 ['A'] ∈ r.notices ∧
    r.openings = [2, 5] ∧ 5 ∈ r.openings ∧ r.openings.getLast? = some 5 ∧
    r.events = [.opened 2 ['A'], .finished ['A'] 1, .opened 5 ['A'], .finished ['A'] 2] := by
  intro schema r
  have hdup : .duplicate 5 ['A'] ∈ r.notices := by decide +kernel
  have hend : .unterminated 5 ['A'] ∈ r.notices := by decide +kernel
  have hopenings : r.openings = [2, 5] := by decide +kernel
  obtain ⟨-, hevents, -, -, -, hduplicate, hunterminated⟩ := events_ofText schema
  refine ⟨hdup, hend, hopenings, hduplicate 5 _ hdup, hunterminated 5 _ hend, ?_⟩
  rw [hevents]
  decide +kernel

end Reading

end SchemaSheet
