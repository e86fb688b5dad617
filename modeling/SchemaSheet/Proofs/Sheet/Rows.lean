import SchemaSheet.Proofs.Reading
import SchemaSheet.Proofs.Sheet.Csv
import SchemaSheet.Proofs.Sheet.Json
import SchemaSheet.Proofs.Sheet.Workbook
import SchemaSheet.Proofs.Sheet.Yaml.Document
import SchemaSheet.Proofs.Utf8

/-! How many rows a stored sheet has, for one who reads its bytes. In every format it is the number
of rows that were rendered. In a workbook this rests on the names of tables, which are never empty:
a row of empty cells would not be stored. -/

namespace SchemaSheet

/-- The number of rows in a stored sheet, for one who has a reader of workbooks; the titles are
none. -/
def Format.rowCount? (reader : List UInt8 → Option Workbook) (f : Format) (bytes : List UInt8) :
    Option Nat :=
  match f with
  | csv =>
    match (Text.Utf8.text? bytes).bind Csv.read? with
    | some (_ :: records) => some records.length
    | _ => none
  | json =>
    match (Text.Utf8.text? bytes).bind Json.read? with
    | some (.array items) => some items.length
    | _ => none
  | yaml => ((Text.Utf8.text? bytes).bind Yaml.read?).map List.length
  | xlsx =>
    (reader bytes).map fun w =>
      (w.rows.drop w.frozen).countP fun cells => cells.any Option.isSome

/-- The name of a table is a run of word characters. -/
theorem name_ne_nil_of_mem_allOf {schema : Text} {t : Table} (h : t ∈ Table.allOf schema) :
    t.name ≠ [] := by
  rw [Table.allOf_eq_map_split] at h
  obtain ⟨b, hb, rfl⟩ := List.mem_map.1 h
  exact (Block.isRun_name hb).1

theorem Row.table_ne_nil {schema : Text} {row : Row}
    (h : row ∈ Row.ofTables (Table.allOf schema)) : row.table ≠ [] := by
  obtain ⟨t, ht, hrow⟩ := List.mem_flatMap.1 h
  obtain ⟨column, -, rfl⟩ := List.mem_map.1 hrow
  exact name_ne_nil_of_mem_allOf ht

namespace Workbook

theorem any_isSome_cells {row : Row} (h : row.table ≠ []) (p : Projection) :
    ((row.cells p).map (Cell.of? false)).any Option.isSome = true := by
  have hcell : (Cell.of? false row.table).isSome = true := by
    simp [Cell.of?, h]
  cases p <;> simp [Row.cells, Projection.headings, Heading.cell, hcell]

end Workbook

/-- A reader finds the rows that were rendered, if it finds workbooks as they were archived. -/
theorem Format.rowCount?_render {workbooks : Bool} {f : Format} {rows : List Row} {p : Projection}
    {c : Content} (h : f.render workbooks rows p = .ok c) (hrows : ∀ row ∈ rows, row.table ≠ [])
    {archive : Workbook → List UInt8} {reader : List UInt8 → Option Workbook}
    (hreader : ∀ w, c = .workbook w → reader (archive w) = some w) :
    f.rowCount? reader (c.bytes archive) = some rows.length := by
  cases f with
  | csv =>
    obtain ⟨t, hrender, hread⟩ := Csv.read?_render rows p
    rw [Format.render, hrender] at h
    cases h
    simp [rowCount?, Content.bytes, Text.Utf8.text?_encode, hread]
  | json =>
    cases h
    simp [rowCount?, Content.bytes, Text.Utf8.text?_encode, Json.read?_render]
  | yaml =>
    cases h
    simp [rowCount?, Content.bytes, Text.Utf8.text?_encode, Yaml.read?_render]
  | xlsx =>
    unfold Format.render at h
    simp only at h
    split at h
    · split at h
      · next w hw =>
        cases h
        obtain ⟨-, hfrozen, hcells⟩ := Workbook.render_eq_ok hw
        have hall : ((rows.map (Row.cells · p)).map (·.map (Workbook.Cell.of? false))).countP
            (fun cells => cells.any Option.isSome) = rows.length := by
          rw [List.countP_map, List.countP_map, List.countP_eq_length]
          exact fun row hrow => Workbook.any_isSome_cells (hrows row hrow) p
        rw [rowCount?, Content.bytes, hreader w rfl, Option.map_some, hfrozen, hcells,
          List.drop_one, List.tail_cons, hall]
      · cases h
    · cases h

end SchemaSheet
