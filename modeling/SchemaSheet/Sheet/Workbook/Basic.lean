import SchemaSheet.Sheet.Row
import SchemaSheet.Sheet.Workbook.Width
import SchemaSheet.Text.Numeral

/-! A workbook with one sheet: a bold row of titles that stays in view, and a row of cells per row
of the sheet. Empty cells are not stored, and control characters are stored escaped. -/

namespace SchemaSheet

namespace Workbook

structure Cell where
  text : Text
  bold : Bool := false
  deriving DecidableEq, Repr

end Workbook

structure Workbook where
  sheet : Text
  rows : List (List (Option Workbook.Cell))
  /-- How many rows stay in view. -/
  frozen : Nat
  widths : List Workbook.Width
  deriving DecidableEq, Repr

namespace Workbook

open Text

def sheetName : Text := "DB Definition".toList

inductive Fault where
  | rowLimit
  | cellLimit
  deriving DecidableEq, Repr

def Fault.message : Fault → Text
  | rowLimit => "Row or column exceeds Excel's allowed limits.".toList
  | cellLimit => "String exceeds Excel's limit of 32,767 characters.".toList

def maxRows : Nat := 1048576
def maxChars : Nat := 32767

/-- Whether what follows an underscore makes it look like an escape. -/
def looksEscaped : Text → Bool
  | 'x' :: a :: b :: c :: d :: _ :: _ => [a, b, c, d].all Text.isHexDigit
  | _ => false

def controlEscape (c : Char) : Text :=
  "_x00".toList ++
    [Nat.digitChar (c.toNat / 16), (Nat.digitChar (c.toNat % 16)).toUpper] ++ ['_']

/-- A cell's text as it is stored. -/
def stored : Text → Text
  | [] => []
  | c :: cs =>
    (if c = '_' then if looksEscaped cs then "_x005F_".toList else ['_']
      else if c.toNat < 0x20 && c != '\t' && c != '\n' then controlEscape c
      else [c]) ++ stored cs

/-- The cell that holds a text. An empty text has none. -/
def Cell.of? (bold : Bool) (t : Text) : Option Cell :=
  if t.isEmpty then none else some ⟨stored t, bold⟩

/-- The first fault of rows of cells, the first of which is the sheet's row `n`. -/
def fault? (n : Nat) : List (List Text) → Option Fault
  | [] => none
  | cells :: rest =>
    if maxRows ≤ n then some .rowLimit
    else if cells.any (maxChars < ·.length) then some .cellLimit
    else fault? (n + 1) rest

def columnOf (rows : List (List Text)) (k : Nat) : List Text := rows.filterMap (·[k]?)

def render (rows : List Row) (p : Projection) : Except Fault Workbook :=
  let cells := rows.map (Row.cells · p)
  match fault? 1 cells with
  | some f => .error f
  | none => .ok {
      sheet := sheetName
      rows := p.titles.map (Cell.of? true) :: cells.map (·.map (Cell.of? false))
      frozen := 1
      widths := (List.range p.titles.length).map fun k =>
        .ofPixels (columnPixels (columnOf (p.titles :: cells) k)) }

end Workbook

end SchemaSheet
