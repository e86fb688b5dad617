import Mathlib.Data.List.Nodup
import SchemaSheet.Proofs.Block
import SchemaSheet.Proofs.Line
import SchemaSheet.Schema.Reading

/-! Where the reader stands after any number of lines: its state is the one that the blocks of those
lines give, whatever the lines are, and the names that it has seen are those of its tables and of
the open model. What the end of the input adds is then read off the blocks. -/

namespace SchemaSheet

def Notice.renumbered (f : Nat → Nat) : Notice → Notice
  | .malformedField n model text => .malformedField (f n) model text
  | .nestedHeader n model name => .nestedHeader (f n) model name
  | .unterminated n name => .unterminated (f n) name
  | .duplicate n name => .duplicate (f n) name

theorem Reader.complaints_renumbered (f : Nat → Nat) (model : Text) (n : Nat) (line : Text) :
    complaints model (f n) line = (complaints model n line).map (Notice.renumbered f) := by
  unfold complaints
  cases Line.header? line <;> cases Line.column? line <;> rfl

def Table.record (n : Nat) (t : Table) : List Event :=
  [.opened n t.name, .finished t.name t.columns.length]

/-- The names that a reader has seen are those of its tables and of the model that is open, each
kept once. -/
structure Reader.Tracks (r : Reader) : Prop where
  nodup : r.seen.Nodup
  mem_iff (name : Text) : name ∈ r.seen ↔
    ∃ t ∈ r.done.tables ++ r.current.toList.map (·.table), t.name = name

/-- Outside of models, a name was seen if a table has it. -/
theorem Reader.Tracks.contains_seen {r : Reader} (h : r.Tracks) (ho : r.current = none)
    (name : Text) : r.seen.contains name = r.done.tables.any (·.name == name) := by
  rw [Bool.eq_iff_iff, List.contains_iff_mem, h.mem_iff, ho]
  simp

namespace Block

/-- The notices of the line with number `n`, by the blocks of the lines before it. -/
def noticesAt (bs : List Block) (n : Nat) (line : Text) : List Notice :=
  match open? bs with
  | none =>
    match Line.header? line with
    | none => []
    | some name => if bs.any (·.name == name) then [.duplicate n name] else []
  | some b =>
    if Line.isClosing line || Line.isSkipped line then [] else Reader.complaints b.name n line

/-- What the end of the input adds. -/
def unterminated (bs : List Block) : List Notice :=
  (open? bs).toList.map fun b => .unterminated b.opening b.name

def lineNotices (lines : List Text) : List Notice :=
  (prefixed lines).flatMap fun (before, line) =>
    noticesAt (split 1 before) (before.length + 1) line

/-- The events of blocks, one of which may still be open. -/
def events (bs : List Block) : List Event :=
  (finished bs).flatMap (fun b => b.table.record b.opening) ++
    (open? bs).toList.map fun b => .opened b.opening b.name

def names (bs : List Block) : List Text := bs.foldl (fun seen b => seen.insert b.name) []

/-- The reader that has met these blocks and given these notices. -/
def reader (bs : List Block) (notices : List Notice) : Reader where
  current := (open? bs).map fun b => ⟨b.table, b.opening⟩
  done := ⟨(finished bs).map table, notices, events bs⟩
  seen := names bs

theorem lineNotices_concat (lines : List Text) (line : Text) :
    lineNotices (lines ++ [line]) =
      lineNotices lines ++ noticesAt (split 1 lines) (lines.length + 1) line := by
  simp [lineNotices, prefixed_concat]

theorem isRun_name {lines : List Text} {b : Block} (h : b ∈ split 1 lines) :
    Text.IsRun Text.isWord b.name := by
  obtain ⟨line, -, hline⟩ := header?_opening h
  exact Line.isRun_of_header? hline

@[simp] theorem name_table (b : Block) : b.table.name = b.name := rfl

theorem table_extended (b : Block) (line : Text) :
    (b.extended line).table =
      if Line.isClosing line || Line.isSkipped line then b.table
      else { b.table with columns := b.table.columns ++ (Line.column? line).toList } := by
  unfold extended
  cases hc : Line.isClosing line with
  | true => rfl
  | false =>
    cases hs : Line.isSkipped line with
    | true => simp [table, candidates, hs]
    | false => cases h : Line.column? line <;> simp [table, candidates, hs, h]

@[simp] theorem names_concat (bs : List Block) (b : Block) :
    names (bs ++ [b]) = (names bs).insert b.name := by
  simp [names]

theorem mem_names {bs : List Block} {name : Text} : name ∈ names bs ↔ ∃ b ∈ bs, b.name = name := by
  induction bs using List.reverseRecOn with
  | nil => simp [names]
  | append_singleton bs b ih =>
    rw [names_concat, List.mem_insert_iff, ih]
    simp [or_comm, eq_comm]

theorem nodup_names (bs : List Block) : (names bs).Nodup := by
  induction bs using List.reverseRecOn with
  | nil => exact List.nodup_nil
  | append_singleton bs b ih =>
    rw [names_concat]
    exact List.Nodup.insert ih

/-- The set of names stays in step with the tables. -/
theorem tracks_reader (bs : List Block) (notices : List Notice) : (reader bs notices).Tracks := by
  have htables : (finished bs).map table ++ (open? bs).toList.map table = bs.map table := by
    cases ho : open? bs with
    | none => simp [finished_of_none ho]
    | some b =>
      obtain ⟨hbs, -⟩ := eq_concat_of_open? ho
      rw [finished, ho, Option.isSome_some, if_pos rfl, Option.toList_some, ← List.map_append,
        ← hbs]
  refine ⟨nodup_names bs, fun name => ?_⟩
  have hopen : (reader bs notices).current.toList.map (·.table) = (open? bs).toList.map table := by
    unfold reader
    cases open? bs <;> rfl
  rw [hopen]
  change name ∈ names bs ↔ ∃ t ∈ (finished bs).map table ++ _, t.name = name
  rw [htables, mem_names]
  simp

/-- The reader takes a line as the blocks do. -/
theorem take_reader (bs : List Block) (notices : List Notice) (n : Nat) (line : Text) :
    (reader bs notices).take n line =
      reader (grown bs n line) (notices ++ noticesAt bs n line) := by
  rcases grown_cases bs n line with ⟨ho, hh, hg⟩ | ⟨name, ho, hh, hg⟩ | ⟨init, b, rfl, hb, hg⟩
  · rw [hg]
    simp [Reader.take, reader, noticesAt, ho, hh]
  · have hseen : (names bs).contains name = bs.any (·.name == name) := by
      have hname := (tracks_reader bs notices).contains_seen (by simp [reader, ho]) name
      simpa [reader, finished_of_none ho, List.any_map, Function.comp_def] using hname
    rw [hg]
    simp [Reader.take, Reader.openModel, reader, noticesAt, events, ho, hh, finished_of_none ho,
      table, candidates, ← hseen]
  · rw [hg]
    cases hc : Line.isClosing line with
    | true =>
      simp [Reader.take, Reader.finish, reader, noticesAt, events, Table.record, hb, hc,
        table_extended]
    | false =>
      cases hs : Line.isSkipped line with
      | true => simp [Reader.take, reader, noticesAt, events, hb, hc, hs, table_extended]
      | false =>
        simp [Reader.take, Reader.field, reader, noticesAt, events, hb, hc, hs, table_extended]

theorem close_reader (bs : List Block) (notices : List Notice) :
    (reader bs notices).close =
      ⟨bs.map table, notices ++ unterminated bs,
        bs.flatMap fun b => b.table.record b.opening⟩ := by
  cases ho : open? bs with
  | none => simp [Reader.close, reader, unterminated, events, ho, finished_of_none ho]
  | some b =>
    obtain ⟨hbs, hb⟩ := eq_concat_of_open? ho
    rw [hbs]
    simp [Reader.close, Reader.finish, reader, unterminated, events, Table.record, hb]

end Block

namespace Reader

theorem takeAll_append (r : Reader) (n : Nat) (before after : List Text) :
    r.takeAll n (before ++ after) = (r.takeAll n before).takeAll (n + before.length) after := by
  induction before generalizing r n with
  | nil => rfl
  | cons line before ih =>
    rw [List.cons_append, takeAll, takeAll, ih, List.length_cons, Nat.add_right_comm, Nat.add_assoc]

/-- After any lines the reader stands where their blocks say. -/
theorem takeAll_eq_reader (lines : List Text) :
    takeAll {} 1 lines = Block.reader (Block.split 1 lines) (Block.lineNotices lines) := by
  induction lines using List.reverseRecOn with
  | nil =>
    simp [takeAll, Block.reader, Block.finished, Block.lineNotices, Block.events, Block.names]
  | append_singleton lines line ih =>
    rw [takeAll_append, ih, takeAll, takeAll, Block.take_reader, ← Block.split_concat,
      Block.lineNotices_concat, Nat.add_comm 1]

/-- After any lines the names that were seen are those of the tables and of the open model. -/
theorem tracks_takeAll (lines : List Text) : (takeAll {} 1 lines).Tracks := by
  rw [takeAll_eq_reader]
  exact Block.tracks_reader _ _

end Reader

def Text.trimmedLines (t : Text) : List Text := (lines t).map trim

theorem Text.trimmedLines_append (s t : Text) :
    trimmedLines (s ++ '\n' :: t) = s.trimmedLines ++ t.trimmedLines := by
  rw [trimmedLines, lines, pieces_append_cons, List.map_append]
  rfl

theorem Text.length_trimmedLines (t : Text) : t.trimmedLines.length = t.count '\n' + 1 := by
  rw [trimmedLines, List.length_map, lines, length_pieces]

theorem Text.trimEnd_of_mem_trimmedLines {schema line : Text} (h : line ∈ schema.trimmedLines) :
    trimEnd line = line := by
  obtain ⟨l, -, rfl⟩ := List.mem_map.1 h
  exact trimEnd_trim l

theorem Text.not_mem_of_mem_trimmedLines {schema line : Text} (h : line ∈ schema.trimmedLines) :
    '\n' ∉ line := by
  obtain ⟨l, hl, rfl⟩ := List.mem_map.1 h
  exact not_mem_of_infix (trim_isInfix l) (not_mem_of_mem_pieces hl)

theorem Reading.ofText_eq (schema : Text) :
    Reading.ofText schema =
      ⟨(Block.split 1 schema.trimmedLines).map Block.table,
        Block.lineNotices schema.trimmedLines ++
          Block.unterminated (Block.split 1 schema.trimmedLines),
        (Block.split 1 schema.trimmedLines).flatMap fun b => b.table.record b.opening⟩ := by
  unfold Reading.ofText Reading.ofLines
  rw [Reader.takeAll_eq_reader, Block.close_reader]
  rfl

/-- The tables of a schema are those of its blocks, one for one and in order. -/
theorem Table.allOf_eq_map_split (schema : Text) :
    Table.allOf schema = (Block.split 1 schema.trimmedLines).map Block.table := by
  unfold Table.allOf
  rw [Reading.ofText_eq]

end SchemaSheet
