import SchemaSheet.Proofs.Notices
import SchemaSheet.Proofs.Prefix

/-! Headers inside models. A header can always be read as a column: the keyword is its name, and the
model's name its type. So a header that is met inside a model is noticed once, as a header, and
adds one column to the model; it opens and closes nothing. Along a run the notices about such
headers never outnumber the columns called `model`. -/

namespace SchemaSheet

open Text

def Notice.isNested : Notice → Bool
  | .nestedHeader .. => true
  | _ => false

def Column.isKeyword (c : Column) : Bool := c.name == "model".toList

/-- What a header with a name is as a column. -/
structure Column.OfHeader (name : Text) (c : Column) : Prop where
  keyword : c.name = "model".toList
  type_eq : c.dataType = name
  not_nullable : c.nullable = false

/-- The reader with one column more in its open model and one notice more. -/
def Reader.noted (r : Reader) (m : OpenModel) (c : Column) (x : Notice) : Reader :=
  { r with
    current := some { m with table := { m.table with columns := m.table.columns ++ [c] } }
    done := { r.done with notices := r.done.notices ++ [x] } }

namespace Line

variable {line name : Text}

theorem column_of_header (h : header? line = some name) :
    ∃ c, column? line = some c ∧ c.OfHeader name := by
  obtain ⟨gap, tail, hcut, -⟩ := cut_of_header? h
  have hword := (isRun_of_header? h).2
  -- a word has no question mark, so the type is the name as it stands
  have hmark : '?' ∉ name := (isRun_of_header? h).not_mem (by decide)
  refine ⟨_, hcut.column?, rfl, List.filter_eq_self.2 fun d hd => ?_, ?_⟩
  · exact bne_iff_ne.2 (ne_of_isWord (hword d hd) (by decide))
  · rw [List.contains_eq_mem, decide_eq_false_iff_not]
    exact hmark

theorem isClosing_of_header (h : header? line = some name) : isClosing line = false := by
  obtain ⟨gap, tail, hcut, -⟩ := cut_of_header? h
  exact hcut.isClosing

theorem isSkipped_of_header (h : header? line = some name) : isSkipped line = false := by
  obtain ⟨gap, tail, hcut, -⟩ := cut_of_header? h
  exact hcut.isSkipped

end Line

/-- A header inside a model is noticed and becomes a column, whatever the reader has read. -/
theorem Reader.take_of_header {r : Reader} {m : OpenModel} {line name : Text} {c : Column}
    (hm : r.current = some m) (h : Line.header? line = some name) (hc : Line.column? line = some c)
    (n : Nat) : r.take n line = r.noted m c (.nestedHeader n m.table.name name) := by
  simp [take, field, complaints, noted, hm, h, hc, Line.isClosing_of_header h,
    Line.isSkipped_of_header h]

theorem Reader.complaints_of_header {line name : Text} (h : Line.header? line = some name)
    (model : Text) (n : Nat) : complaints model n line = [.nestedHeader n model name] := by
  obtain ⟨c, hc, -⟩ := Line.column_of_header h
  simp [complaints, h, hc]

/-- Of the notices that a line leads to, those about a header have a column each. -/
theorem Reader.countP_complaints_le (model : Text) (n : Nat) (line : Text) :
    (complaints model n line).countP Notice.isNested ≤
      (Line.column? line).toList.countP Column.isKeyword := by
  cases h : Line.header? line with
  | some name =>
    obtain ⟨c, hc, hkeyword, -, -⟩ := Line.column_of_header h
    rw [complaints_of_header h, hc]
    simp [Notice.isNested, Column.isKeyword, hkeyword]
  | none =>
    have hnone : (complaints model n line).countP Notice.isNested = 0 := by
      cases hc : Line.column? line <;> simp [complaints, h, hc, Notice.isNested]
    rw [hnone]
    exact Nat.zero_le _

namespace Block

def keywordCount (bs : List Block) : Nat :=
  (bs.flatMap (·.table.columns)).countP Column.isKeyword

theorem noticesAt_of_header {bs : List Block} {b : Block} {line name : Text}
    (hb : open? bs = some b) (h : Line.header? line = some name) (n : Nat) :
    noticesAt bs n line = [.nestedHeader n b.name name] := by
  simp [noticesAt, hb, Line.isClosing_of_header h, Line.isSkipped_of_header h,
    Reader.complaints_of_header h]

theorem keywordCount_grown (bs : List Block) (n : Nat) (line : Text) :
    keywordCount bs + (noticesAt bs n line).countP Notice.isNested ≤
      keywordCount (grown bs n line) := by
  rcases grown_cases bs n line with ⟨ho, hh, hg⟩ | ⟨name, ho, hh, hg⟩ | ⟨init, b, rfl, hb, hg⟩
  · rw [hg]
    simp [noticesAt, ho, hh]
  · rw [hg]
    simp only [noticesAt, ho, hh]
    split <;> simp [keywordCount, table, candidates, Notice.isNested]
  · rw [hg, noticesAt_concat_of_open _ _ _ hb]
    simp only [keywordCount, List.flatMap_append, List.flatMap_singleton, table_extended,
      List.countP_append]
    split
    · simp
    · have := Reader.countP_complaints_le b.name n line
      rw [List.countP_append]
      omega

theorem countP_lineNotices_le (lines : List Text) :
    (lineNotices lines).countP Notice.isNested ≤ keywordCount (split 1 lines) := by
  induction lines using List.reverseRecOn with
  | nil => simp [lineNotices]
  | append_singleton lines line ih =>
    have hstep := keywordCount_grown (split 1 lines) (1 + lines.length) line
    rw [lineNotices_concat, split_concat, List.countP_append, Nat.add_comm lines.length 1]
    omega

theorem isNested_unterminated (bs : List Block) :
    (unterminated bs).countP Notice.isNested = 0 := by
  rw [List.countP_eq_zero]
  intro x hx
  obtain ⟨b, -, rfl⟩ := List.mem_map.1 hx
  exact Bool.false_ne_true

theorem filter_line_of_header {before after : List Text} {line name : Text} {b : Block}
    (hb : open? (split 1 before) = some b) (h : Line.header? line = some name) :
    (lineNotices (before ++ line :: after) ++
      unterminated (split 1 (before ++ line :: after))).filter
        (·.line == before.length + 1) = [.nestedHeader (before.length + 1) b.name name] := by
  have hlines := filter_line_lineNotices before line after
  rw [noticesAt_of_header hb h] at hlines
  have hmem : .nestedHeader (before.length + 1) b.name name ∈
      lineNotices (before ++ line :: after) :=
    (List.mem_filter.1 (hlines ▸ List.mem_singleton_self _)).1
  rw [List.filter_append, hlines, List.filter_eq_nil_iff.2, List.append_nil]
  intro y hy hline
  obtain ⟨n, repeated, hx, -⟩ := duplicate_of_unterminated hmem hy (beq_iff_eq.1 hline).symm
  cases hx

end Block

open Block

/-- A header is a column with the keyword for a name, and the name it gives for a type. So a header
inside an open model leads to one notice, which is about the header, and to one column at the end of
this model; nothing is opened or closed, and no line behind it takes the column back. In a whole
reading there are at most as many notices about nested headers as columns called `model`. -/
theorem Reading.nested_headers (schema : Text) :
    (∀ line name, Line.header? line = some name →
      ∃ c, Line.column? line = some c ∧ c.OfHeader name) ∧
    (∀ before line after m name, schema.trimmedLines = before ++ line :: after →
      (Reader.takeAll {} 1 before).current = some m → Line.header? line = some name →
      ∃ c, Line.column? line = some c ∧ c.OfHeader name ∧
        let r := Reader.takeAll {} 1 before
        let x := Notice.nestedHeader (before.length + 1) m.table.name name
        r.take (before.length + 1) line = r.noted m c x ∧
        (ofText schema).notices.filter (·.line == before.length + 1) = [x] ∧
        ∃ t, (ofText schema).tables[r.done.tables.length]? = some t ∧ t.name = m.table.name ∧
          m.table.columns ++ [c] <+: t.columns) ∧
    (ofText schema).notices.countP Notice.isNested ≤
      ((ofText schema).tables.flatMap (·.columns)).countP Column.isKeyword := by
  refine ⟨fun line name h => Line.column_of_header h, ?_, ?_⟩
  · intro before line after m name hcut hm h
    obtain ⟨c, hc, hheader⟩ := Line.column_of_header h
    refine ⟨c, hc, hheader, Reader.take_of_header hm h hc _, ?_⟩
    rw [Reader.takeAll_eq_reader] at hm ⊢
    obtain ⟨b, hb, rfl⟩ := Option.map_eq_some_iff.1 hm
    obtain ⟨hbs, hopen⟩ := eq_concat_of_open? hb
    generalize (split 1 before).dropLast = init at hbs
    have hgrown : split 1 (before ++ [line]) = init ++ [b.extended line] := by
      rw [split_concat, hbs, grown_concat _ _ _ hopen]
    obtain ⟨b', rest, hsplit, hname, hbody⟩ := split_append_of_open hgrown after
    rw [List.append_assoc, List.singleton_append] at hsplit
    have hcolumns := columns_prefix hbody
    rw [table_extended, Line.isClosing_of_header h, Line.isSkipped_of_header h, hc] at hcolumns
    rw [ofText_eq, hcut]
    refine ⟨filter_line_of_header hb h, b'.table, ?_, ?_, hcolumns⟩
    · simp [hsplit, hbs, hopen, reader]
    · rw [name_table, hname, name_extended, name_table]
  · rw [ofText_eq, List.countP_append, isNested_unterminated, List.flatMap_map]
    exact countP_lineNotices_le schema.trimmedLines

/-- The second line is a header with a no-break space; the model stays open and has two columns. -/
theorem Reading.nested_headers_unclosed :
    let schema : Text := "model A \x7b\n model\u00a0B\x7b // x\n y Int?".toList
    (Reader.takeAll {} 1 ["model A \x7b".toList]).current = some ⟨⟨['A'], []⟩, 1⟩ ∧
    Line.header? "model\u00a0B\x7b // x".toList = some ['B'] ∧
    (ofText schema).notices.filter (·.line == 2) = [.nestedHeader 2 ['A'] ['B']] := by
  intro schema
  have hcut : schema.trimmedLines =
      ["model A \x7b".toList] ++ "model\u00a0B\x7b // x".toList :: ["y Int?".toList] := by
    decide +kernel
  have hcurrent : (Reader.takeAll {} 1 ["model A \x7b".toList]).current =
      some ⟨⟨['A'], []⟩, 1⟩ := by decide +kernel
  have hheader : Line.header? "model\u00a0B\x7b // x".toList = some ['B'] := by decide +kernel
  obtain ⟨c, -, -, -, hnotices, -⟩ :=
    (Reading.nested_headers schema).2.1 _ _ _ _ _ hcut hcurrent hheader
  exact ⟨hcurrent, hheader, hnotices⟩

end SchemaSheet
