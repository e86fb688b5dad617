import SchemaSheet.Schema.Line
import SchemaSheet.Schema.Notice

/-! Reading a schema line by line. Outside a model only headers count; inside one, every line is
the closing brace, a line to skip or a candidate for a column. A model ends at its closing brace or
at the end of the input, and reading never fails. -/

namespace SchemaSheet

/-- A step of the reader that is worth recording. -/
inductive Event where
  | opened (line : Nat) (name : Text)
  | finished (name : Text) (columns : Nat)
  deriving DecidableEq, Repr

/-- What reading a schema yields: its tables, what was tolerated, and the steps taken. -/
structure Reading where
  tables : List Table := []
  notices : List Notice := []
  events : List Event := []
  deriving DecidableEq, Repr

structure OpenModel where
  table : Table
  line : Nat
  deriving DecidableEq, Repr

structure Reader where
  current : Option OpenModel := none
  done : Reading := {}
  /-- The set of the names that headers gave. -/
  seen : List Text := []
  deriving DecidableEq, Repr

namespace Reader

/-- Opens a model; a name that was seen before is noticed. -/
def openModel (r : Reader) (n : Nat) (name : Text) : Reader where
  current := some ⟨⟨name, []⟩, n⟩
  done := { r.done with
    notices := r.done.notices ++ if r.seen.contains name then [.duplicate n name] else []
    events := r.done.events ++ [.opened n name] }
  seen := r.seen.insert name

def finish (r : Reader) (m : OpenModel) : Reader :=
  { r with
    current := none
    done := { r.done with
      tables := r.done.tables ++ [m.table]
      events := r.done.events ++ [.finished m.table.name m.table.columns.length] } }

/-- The notices of a line inside a model: one if it is a header, and one if it is no column. -/
def complaints (model : Text) (n : Nat) (line : Text) : List Notice :=
  (Line.header? line).toList.map (.nestedHeader n model ·) ++
    if (Line.column? line).isNone then [.malformedField n model line] else []

/-- Takes a line that may declare a column. A nested header is noticed and then taken like any
other line. -/
def field (r : Reader) (m : OpenModel) (n : Nat) (line : Text) : Reader :=
  { r with
    current := some { m with
      table := { m.table with columns := m.table.columns ++ (Line.column? line).toList } }
    done := { r.done with notices := r.done.notices ++ complaints m.table.name n line } }

/-- Takes the trimmed line with number `n`. -/
def take (r : Reader) (n : Nat) (line : Text) : Reader :=
  match r.current with
  | none =>
    match Line.header? line with
    | some name => r.openModel n name
    | none => r
  | some m =>
    if Line.isClosing line then r.finish m
    else if Line.isSkipped line then r
    else r.field m n line

/-- Takes trimmed lines in order, the first of which has number `n`. -/
def takeAll (r : Reader) (n : Nat) : List Text → Reader
  | [] => r
  | line :: rest => takeAll (r.take n line) (n + 1) rest

/-- The input ends; a model that is still open is noticed and finished. -/
def close (r : Reader) : Reading :=
  match r.current with
  | none => r.done
  | some m =>
    (Reader.finish
      { r with done := { r.done with
        notices := r.done.notices ++ [.unterminated m.line m.table.name] } } m).done

end Reader

def Reading.ofLines (lines : List Text) : Reading :=
  (Reader.takeAll {} 1 (lines.map Text.trim)).close

def Reading.ofText (schema : Text) : Reading := Reading.ofLines (Text.lines schema)

def Table.allOf (schema : Text) : List Table := (Reading.ofText schema).tables

end SchemaSheet
