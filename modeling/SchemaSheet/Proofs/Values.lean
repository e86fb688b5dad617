import Mathlib.Data.List.Forall2
import SchemaSheet.Proofs.Comment
import SchemaSheet.Proofs.Reading
import SchemaSheet.Proofs.Sheet.Csv
import SchemaSheet.Sheet.Format

/-! What the values of a schema are made of. Names are words, and everything else is a slice of the
trimmed line that declares the column, so that no value holds a line feed. Values may still hold
quotes, commas and carriage returns; a sheet of comma separated values quotes them, and has one line
for each row all the same. -/

namespace SchemaSheet

open Text

/-- The lines that the columns of a block are declared on. -/
def Block.sources (b : Block) : List Text :=
  b.candidates.filter fun line => (Line.column? line).isSome

/-- The values of a column are clean, and are found in the line that declares it. -/
structure Column.ReadFrom (line : Text) (c : Column) : Prop where
  declared : Line.column? line = some c
  name_run : IsRun isWord c.name
  type_chars : ∀ d ∈ c.dataType, isWord d = true ∨ d = '[' ∨ d = ']'
  type_mark : '?' ∉ c.dataType
  default_part : c.defaultValue <:+: line
  comment_trim : trim c.comment = c.comment
  comment_end : c.comment <:+ line
  one_line : ∀ value ∈ [c.name, c.dataType, c.defaultValue, c.comment], '\n' ∉ value

/-- The values of a table are clean. Its columns are declared, one by one, on lines of the block
that it is read from, and the body of the block stands right behind its header. -/
structure Table.ReadFrom (lines : List Text) (b : Block) (t : Table) : Prop where
  name_run : IsRun isWord t.name
  name_line : '\n' ∉ t.name
  columns : List.Forall₂ Column.ReadFrom b.sources t.columns
  body : b.body <+: lines.drop b.opening

namespace Line

theorem readFrom_of_column? {line : Text} {c : Column} (h : column? line = some c)
    (hend : trimEnd line = line) (hline : '\n' ∉ line) : Column.ReadFrom line c := by
  obtain ⟨name, gap, type, rest, hcut, rfl⟩ := cut_of_column? h
  have hrest : rest <:+ line := ⟨name ++ (gap ++ type), by simp [hcut.line_eq]⟩
  have htrim : trimEnd rest = rest := trimEnd_of_suffix hrest hend
  have hdefault : (Attributes.ofText rest).defaultValue <:+: line :=
    (Attributes.defaultValue_isInfix rest).trans hrest.isInfix
  have hcomment : (Attributes.ofText rest).comment <:+ line :=
    (Attributes.comment_isSuffix htrim).trans hrest
  have htype : ∀ d ∈ type.filter (· != '?'), isWord d = true ∨ d = '[' ∨ d = ']' := by
    intro d hd
    have hchar := hcut.type_run.2 d (List.mem_filter.1 hd).1
    have hmark := (List.mem_filter.1 hd).2
    simp only [isTypeChar, Bool.or_eq_true, beq_iff_eq] at hchar
    rcases hchar with ((hword | hopening) | hclosing) | hquestion
    · exact Or.inl hword
    · exact Or.inr (Or.inl hopening)
    · exact Or.inr (Or.inr hclosing)
    · rw [hquestion] at hmark
      cases hmark
  refine ⟨h, hcut.name_run, htype, by simp, hdefault, Attributes.trim_comment rest, hcomment, ?_⟩
  intro value hvalue
  simp only [List.mem_cons, List.not_mem_nil, or_false] at hvalue
  rcases hvalue with rfl | rfl | rfl | rfl
  · exact hcut.name_run.not_mem (by decide)
  · intro hmem
    exact hcut.type_run.not_mem (c := '\n') (by decide) (List.mem_filter.1 hmem).1
  · exact not_mem_of_infix hdefault hline
  · exact not_mem_of_infix hcomment.isInfix hline

end Line

/-- What a function finds, element by element, in those elements in which it finds something. -/
theorem forall₂_filterMap {α β : Type} {f : α → Option β} {R : α → β → Prop} {xs : List α}
    (h : ∀ x ∈ xs, ∀ y, f x = some y → R x y) :
    List.Forall₂ R (xs.filter fun x => (f x).isSome) (xs.filterMap f) := by
  induction xs with
  | nil => exact .nil
  | cons x xs ih =>
    have hrest := ih fun z hz => h z (List.mem_cons_of_mem x hz)
    cases hx : f x with
    | none => simpa [hx] using hrest
    | some y => simpa [hx] using ⟨h x List.mem_cons_self y hx, hrest⟩

namespace Block

variable {schema : Text} {b : Block}

theorem readFrom_of_candidate (hb : b ∈ split 1 schema.trimmedLines) {line : Text}
    (hline : line ∈ b.candidates) {c : Column} (hc : Line.column? line = some c) :
    Column.ReadFrom line c := by
  have hbody : line ∈ b.body := (List.mem_filter.1 hline).1
  have hmem : line ∈ schema.trimmedLines :=
    List.mem_of_mem_drop ((body_prefix_drop hb).subset hbody)
  exact Line.readFrom_of_column? hc (trimEnd_of_mem_trimmedLines hmem)
    (not_mem_of_mem_trimmedLines hmem)

theorem readFrom_table (hb : b ∈ split 1 schema.trimmedLines) :
    Table.ReadFrom schema.trimmedLines b b.table := by
  have hname : IsRun isWord b.table.name := isRun_name hb
  have hcolumns : List.Forall₂ Column.ReadFrom b.sources b.table.columns :=
    forall₂_filterMap fun line hline c hc => readFrom_of_candidate hb hline hc
  exact ⟨hname, hname.not_mem (by decide), hcolumns, body_prefix_drop hb⟩

end Block

theorem Row.not_mem_cells {schema : Text} {row : Row}
    (h : row ∈ Row.ofTables (Table.allOf schema)) (p : Projection) {cell : Text}
    (hcell : cell ∈ row.cells p) : '\n' ∉ cell := by
  obtain ⟨t, ht, hrow⟩ := List.mem_flatMap.1 h
  obtain ⟨c, hc, rfl⟩ := List.mem_map.1 hrow
  rw [Table.allOf_eq_map_split] at ht
  obtain ⟨b, hb, rfl⟩ := List.mem_map.1 ht
  obtain ⟨line, hline, hcolumn⟩ := List.mem_filterMap.1 hc
  have hvalues := (Block.readFrom_of_candidate hb hline hcolumn).one_line
  simp only [List.forall_mem_cons] at hvalues
  obtain ⟨hname, htype, hdefault, hcomment, -⟩ := hvalues
  have hflag (f : Bool) : '\n' ∉ Heading.flag f := by
    cases f <;> decide
  obtain ⟨heading, -, rfl⟩ := List.mem_map.1 hcell
  cases heading with
  | table => exact (Block.readFrom_table hb).name_line
  | column => exact hname
  | dataType => exact htype
  | primaryKey => exact hflag _
  | nullable => exact hflag _
  | unique => exact hflag _
  | defaultValue => exact hdefault
  | comment => exact hcomment

theorem Projection.not_mem_titles (p : Projection) {title : Text} (h : title ∈ p.titles) :
    '\n' ∉ title := by
  obtain ⟨heading, -, rfl⟩ := List.mem_map.1 h
  cases heading <;> decide

/-- A sheet of comma separated values has a line for its titles and a line for each of its rows. -/
theorem Csv.lineByLine_sheet (schema : Text) (p : Projection) :
    LineByLine
      ((p.titles :: (Row.ofTables (Table.allOf schema)).map (Row.cells · p)).flatMap ofLine)
      (p.titles :: (Row.ofTables (Table.allOf schema)).map (Row.cells · p)) := by
  apply lineByLine_flatMap_ofLine
  · intro fields hfields
    exact fields_ne_nil hfields
  · intro fields hfields f hf
    rcases List.mem_cons.1 hfields with rfl | hfields
    · exact p.not_mem_titles hf
    · obtain ⟨row, hrow, rfl⟩ := List.mem_map.1 hfields
      exact Row.not_mem_cells hrow p hf

/-- The values of every schema are clean. The tables are read from its blocks, one for one: names
are words, a type is made of word characters and brackets, a default is part of the trimmed line of
its column and a comment, trimmed, the end of it, and no line feed stands in any of them. So in both
projections the bytes of the sheet as comma separated values hold one line feed for each row and one
for the titles, and each line, read alone, is one record. -/
theorem Table.allOf_clean (schema : Text) :
    List.Forall₂ (Table.ReadFrom schema.trimmedLines) (Block.split 1 schema.trimmedLines)
      (Table.allOf schema) ∧
    ∀ workbooks p, ∃ t,
      Format.csv.render workbooks (Row.ofTables (Table.allOf schema)) p = .ok (.text t) ∧
      (Utf8.encode t).count 0x0A = (Row.ofTables (Table.allOf schema)).length + 1 ∧
      Csv.LineByLine t (p.titles :: (Row.ofTables (Table.allOf schema)).map (Row.cells · p)) := by
  constructor
  · rw [Table.allOf_eq_map_split, List.forall₂_map_right_iff, List.forall₂_same]
    intro b hb
    exact Block.readFrom_table hb
  · intro workbooks p
    have hsheet := Csv.lineByLine_sheet schema p
    refine ⟨_, by rw [Format.render, Csv.render_eq_ok], ?_, hsheet⟩
    have hbytes := Utf8.count_encode (c := '\n') (by decide)
      ((p.titles :: (Row.ofTables (Table.allOf schema)).map (Row.cells · p)).flatMap Csv.ofLine)
    rw [hsheet.count_eq, List.length_cons, List.length_map] at hbytes
    exact hbytes

example :
    let schema : Text := "model A \x7b\nx T @default(\"a,\rb\") // c, \"d\"\n\x7d".toList
    Csv.render (Row.ofTables (Table.allOf schema)) .full =
      .ok ("Table Name,Column Name,Data Type,PK,Nullable,Unique,Default,Comment\n".toList ++
        "A,x,T,N,N,N,\"\"\"a,\rb\"\"\",\"c, \"\"d\"\"\"\n".toList) := by
  decide +kernel

end SchemaSheet
