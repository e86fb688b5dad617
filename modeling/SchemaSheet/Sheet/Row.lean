import SchemaSheet.Schema.Table

/-! The rows of a definition sheet: one per column of the schema, in order. A projection says which
headings a sheet has. -/

namespace SchemaSheet

/-- A column together with the name of its table. -/
structure Row where
  table : Text
  column : Column
  deriving DecidableEq, Repr, Inhabited

/-- The rows of tables: table by table, column by column. -/
def Row.ofTables (tables : List Table) : List Row :=
  tables.flatMap fun t => t.columns.map (Row.mk t.name)

inductive Heading where
  | table | column | dataType | primaryKey | nullable | unique | defaultValue | comment
  deriving DecidableEq, Repr

namespace Heading

def title : Heading → Text
  | table => "Table Name".toList
  | column => "Column Name".toList
  | dataType => "Data Type".toList
  | primaryKey => "PK".toList
  | nullable => "Nullable".toList
  | unique => "Unique".toList
  | defaultValue => "Default".toList
  | comment => "Comment".toList

def flag (b : Bool) : Text := if b then ['Y'] else ['N']

/-- What a row holds under a heading. -/
def cell (row : Row) : Heading → Text
  | table => row.table
  | column => row.column.name
  | dataType => row.column.dataType
  | primaryKey => flag row.column.primaryKey
  | nullable => flag row.column.nullable
  | unique => flag row.column.unique
  | defaultValue => row.column.defaultValue
  | comment => row.column.comment

end Heading

/-- Which headings a sheet has. -/
inductive Projection where
  | full
  | minimal
  deriving DecidableEq, Repr

namespace Projection

def headings : Projection → List Heading
  | full => [.table, .column, .dataType, .primaryKey, .nullable, .unique, .defaultValue, .comment]
  | minimal => [.table, .column, .dataType]

def titles (p : Projection) : List Text := p.headings.map Heading.title

theorem headings_ne_nil (p : Projection) : p.headings ≠ [] := by
  cases p <;> exact List.cons_ne_nil _ _

theorem length_headings_le (p : Projection) : p.headings.length ≤ 8 := by
  cases p <;> decide

theorem nodup_titles (p : Projection) : p.titles.Nodup := by
  cases p <;> decide

end Projection

def Row.cells (row : Row) (p : Projection) : List Text := p.headings.map (Heading.cell row)

theorem Row.length_cells (row : Row) (p : Projection) : (row.cells p).length = p.titles.length := by
  simp [cells, Projection.titles]

end SchemaSheet
