import SchemaSheet.Sheet.Row

/-! Comma separated values: a line of titles, then a line per row, all with as many fields. A field
is quoted only where it has to be. -/

namespace SchemaSheet.Csv

open Text

def needsQuotes (field : Text) : Bool :=
  field.any fun c => c == ',' || c == '"' || c == '\r' || c == '\n'

/-- A quote inside a quoted field is written twice. -/
def doubled (field : Text) : Text := field.flatMap fun c => if c = '"' then ['"', '"'] else [c]

def ofField (field : Text) : Text :=
  if needsQuotes field then '"' :: doubled field ++ ['"'] else field

def ofLine (fields : List Text) : Text := joined [','] (fields.map ofField) ++ ['\n']

/-- What is wrong with a line that has another number of fields than the lines before it. -/
structure Uneven where
  expected : Nat
  found : Nat
  deriving DecidableEq, Repr

def Uneven.message (e : Uneven) : Text :=
  "CSV error: found record with ".toList ++ Text.ofNat e.found ++
    " fields, but the previous record has ".toList ++ Text.ofNat e.expected ++ " fields".toList

/-- The lines of a document, each of which must have `n` fields. -/
def ofLines (n : Nat) (lines : List (List Text)) : Except Uneven Text :=
  match lines.find? (·.length ≠ n) with
  | some fields => .error ⟨n, fields.length⟩
  | none => .ok (lines.flatMap ofLine)

def render (rows : List Row) (p : Projection) : Except Uneven Text :=
  ofLines p.titles.length (p.titles :: rows.map (Row.cells · p))

theorem ofLines_eq_ok {n : Nat} {lines : List (List Text)} (h : ∀ l ∈ lines, l.length = n) :
    ofLines n lines = .ok (lines.flatMap ofLine) := by
  have hnone : lines.find? (·.length ≠ n) = none := by
    rw [List.find?_eq_none]
    intro l hl
    simp [h l hl]
  rw [ofLines, hnone]

/-- Rendering does not fail, since a row has a cell for every title. -/
theorem render_eq_ok (rows : List Row) (p : Projection) :
    render rows p = .ok ((p.titles :: rows.map (Row.cells · p)).flatMap ofLine) := by
  apply ofLines_eq_ok
  intro l hl
  rcases List.mem_cons.1 hl with rfl | hl
  · rfl
  · obtain ⟨row, -, rfl⟩ := List.mem_map.1 hl
    exact row.length_cells p

end SchemaSheet.Csv
