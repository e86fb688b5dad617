import SchemaSheet.Sheet.Row

/-! Rows as mappings: the cells of a row under the titles of a sheet. A mapping has a value under
each of its keys and keeps the order in which they came. -/

namespace SchemaSheet

abbrev Mapping := List (Text × Text)

namespace Mapping

/-- Puts a value under a key. A key that is there keeps its place, another one comes last. -/
def put (key value : Text) : Mapping → Mapping
  | [] => [(key, value)]
  | (k, v) :: rest => if k = key then (k, value) :: rest else (k, v) :: put key value rest

def ofEntries (entries : List (Text × Text)) : Mapping :=
  entries.foldl (fun m e => m.put e.1 e.2) []

theorem put_of_not_mem {m : Mapping} {key : Text} (h : key ∉ m.map Prod.fst) (value : Text) :
    m.put key value = m ++ [(key, value)] := by
  induction m with
  | nil => rfl
  | cons e m ih =>
    rw [List.map_cons, List.mem_cons, not_or] at h
    rw [put, if_neg (Ne.symm h.1), ih h.2]
    rfl

theorem foldl_put {m : Mapping} {entries : List (Text × Text)}
    (h : ((m ++ entries).map Prod.fst).Nodup) :
    entries.foldl (fun m e => m.put e.1 e.2) m = m ++ entries := by
  induction entries generalizing m with
  | nil => simp
  | cons e entries ih =>
    have hnew : e.1 ∉ m.map Prod.fst := by
      rw [List.map_append, List.map_cons] at h
      intro he
      exact (List.nodup_append.1 h).2.2 e.1 he e.1 List.mem_cons_self rfl
    rw [List.append_cons] at h
    rw [List.foldl_cons, put_of_not_mem hnew, ih h, ← List.append_cons]

/-- Entries under keys that differ are all kept, in order. -/
theorem ofEntries_eq_self {entries : List (Text × Text)} (h : (entries.map Prod.fst).Nodup) :
    ofEntries entries = entries := foldl_put h

end Mapping

def Row.mapping (row : Row) (p : Projection) : Mapping := .ofEntries (p.titles.zip (row.cells p))

/-- No cell gets lost: there are as many as titles, and the titles differ. -/
theorem Row.mapping_eq_zip (row : Row) (p : Projection) :
    row.mapping p = p.titles.zip (row.cells p) := by
  have hkeys : (p.titles.zip (row.cells p)).map Prod.fst = p.titles :=
    List.map_fst_zip (Nat.le_of_eq (row.length_cells p).symm)
  exact Mapping.ofEntries_eq_self (by rw [hkeys]; exact p.nodup_titles)

theorem Row.map_snd_mapping (row : Row) (p : Projection) :
    (row.mapping p).map Prod.snd = row.cells p := by
  rw [row.mapping_eq_zip, List.map_snd_zip (Nat.le_of_eq (row.length_cells p))]

/-- Rows have the same mappings if and only if they have the same cells. -/
theorem Row.map_mapping_eq_iff {rows rows' : List Row} {p : Projection} :
    rows.map (Row.mapping · p) = rows'.map (Row.mapping · p) ↔
      rows.map (Row.cells · p) = rows'.map (Row.cells · p) := by
  constructor
  · intro h
    have hcells := congrArg (List.map (List.map Prod.snd)) h
    simpa [Function.comp_def, Row.map_snd_mapping] using hcells
  · intro h
    have hzip := congrArg (List.map p.titles.zip) h
    simpa [Function.comp_def, Row.mapping_eq_zip] using hzip

theorem Row.mapping_eq_map (row : Row) (p : Projection) :
    row.mapping p = p.headings.map fun h => (h.title, h.cell row) := by
  rw [Row.mapping_eq_zip, Projection.titles, Row.cells, List.zip_map']

theorem Row.length_mapping (row : Row) (p : Projection) :
    (row.mapping p).length = p.headings.length := by
  rw [row.mapping_eq_map, List.length_map]

theorem Row.mapping_ne_nil (row : Row) (p : Projection) : row.mapping p ≠ [] := by
  rw [row.mapping_eq_map]
  simpa using p.headings_ne_nil

end SchemaSheet
