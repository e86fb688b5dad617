import SchemaSheet.Proofs.Sheet.Csv
import SchemaSheet.Proofs.Sheet.Json
import SchemaSheet.Proofs.Sheet.Yaml.Document
import SchemaSheet.Proofs.Utf8
import SchemaSheet.Sheet.Format

/-! What the bytes of a rendered sheet tell. Rendering as text does not fail, whatever the cells
hold; whoever decodes the bytes finds every cell of every row in its place, under its title where
the format has keys. -/

namespace SchemaSheet

open Text

namespace Format

/-- The bytes of a sheet of comma separated values are read as its titles and then the cells of each
row. -/
theorem csv_read_back (workbooks : Bool) (rows : List Row) (p : Projection) :
    ∃ t, csv.render workbooks rows p = .ok (.text t) ∧
      (Utf8.text? (Utf8.encode t)).bind Csv.read? =
        some (p.titles :: rows.map (Row.cells · p)) := by
  obtain ⟨t, hrender, hread⟩ := Csv.read?_render rows p
  refine ⟨t, ?_, ?_⟩
  · rw [render, hrender]
  · rw [Utf8.text?_encode, Option.bind_some, hread]

/-- The bytes of a JSON sheet are read as an array with an object per row, in order: the titles,
which differ, are its keys, and under each is the cell of the row. The text ends with one line feed,
and no control character stands inside of its strings. -/
theorem json_read_back (workbooks : Bool) (rows : List Row) (p : Projection) :
    ∃ t, json.render workbooks rows p = .ok (.text t) ∧
      (Utf8.text? (Utf8.encode t)).bind Json.read? =
        some (.array (rows.map fun row => .object (p.titles.zip ((row.cells p).map .text)))) ∧
      p.titles.Nodup ∧ (∀ row ∈ rows, (row.cells p).length = p.titles.length) ∧
      (∃ s, t = s ++ ['\n'] ∧ s.getLast? ≠ some '\n') ∧
      ∀ c ∈ Json.insides .outside t, 0x20 ≤ c.toNat := by
  refine ⟨Json.render rows p, rfl, ?_, p.nodup_titles, fun row _ => row.length_cells p, ?_,
    (Json.clean_render rows p).2⟩
  · have hcells : Json.ofCells p = fun row => .object (p.titles.zip ((row.cells p).map .text)) :=
      funext (Json.ofCells_eq p)
    rw [Utf8.text?_encode, Option.bind_some, Json.read?_render, hcells]
  · obtain ⟨s, hs, hlast⟩ := Json.exists_render_eq rows p
    exact ⟨s, hs, by simp [hlast]⟩

/-- YAML loses nothing: the bytes of two sheets are the same only if they have as many rows, with
the same cells one by one. -/
theorem yaml_bytes_eq_iff (workbooks : Bool) (rows rows' : List Row) (p : Projection) :
    ∃ t t', yaml.render workbooks rows p = .ok (.text t) ∧
      yaml.render workbooks rows' p = .ok (.text t') ∧
      (Utf8.encode t = Utf8.encode t' ↔ rows.map (Row.cells · p) = rows'.map (Row.cells · p)) := by
  refine ⟨Yaml.render rows p, Yaml.render rows' p, rfl, rfl, fun h => ?_, fun h => ?_⟩
  · have hread := congrArg Yaml.read? (Utf8.encode_injective h)
    rw [Yaml.read?_render, Yaml.read?_render, Option.some.injEq] at hread
    exact Row.map_mapping_eq_iff.1 hread
  · rw [Yaml.render_congr (Row.map_mapping_eq_iff.2 h)]

end Format

end SchemaSheet
