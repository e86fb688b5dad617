import SchemaSheet.Fault.Write
import SchemaSheet.Files.Path
import SchemaSheet.Sheet.Content
import SchemaSheet.Sheet.Csv
import SchemaSheet.Sheet.Json
import SchemaSheet.Sheet.Yaml.Document

/-! The formats of a sheet: their names, the choice by a path's extension, and what a sheet looks
like in each. -/

namespace SchemaSheet

inductive Format where
  | csv | xlsx | json | yaml
  deriving DecidableEq, Repr

namespace Format

def name : Format → Text
  | csv => "csv".toList
  | xlsx => "xlsx".toList
  | json => "json".toList
  | yaml => "yaml".toList

def lowered (t : Text) : Text := t.map Char.toLower

/-- The format with a name; case does not matter. -/
def ofName? (t : Text) : Option Format :=
  let low := lowered t
  if low = "csv".toList then some csv
  else if low = "xlsx".toList then some xlsx
  else if low = "json".toList then some json
  else if low = "yaml".toList ∨ low = "yml".toList then some yaml
  else none

def unknown (t : Text) : Text :=
  "unknown output format \x60".toList ++ lowered t ++
    "\x60 (expected csv, xlsx, json or yaml)".toList

def named (t : Text) : Except Text Format :=
  match ofName? t with
  | some f => .ok f
  | none => .error (unknown t)

/-- The format that a path's extension names; csv if it names none. -/
def ofPath (path : Path) : Format := ((Path.extension? path).bind ofName?).getD csv

/-- The format for a path in bytes, which need not be a text. A byte that belongs to no character is
read as a replacement character, which no name of a format has. -/
def ofBytes (path : List UInt8) : Format := ofPath (Text.Utf8.lossy path)

/-- The sheet of the rows. Not every build can write workbooks. -/
def render (workbooks : Bool) (f : Format) (rows : List Row) (p : Projection) :
    Except WriteFault Content :=
  match f with
  | csv =>
    match Csv.render rows p with
    | .ok t => .ok (.text t)
    | .error e => .error (.csv (.other e.message))
  | json => .ok (.text (Json.render rows p))
  | yaml => .ok (.text (Yaml.render rows p))
  | xlsx =>
    if workbooks then
      match Workbook.render rows p with
      | .ok w => .ok (.workbook w)
      | .error e => .error (.serialization ("XLSX encoding failed: ".toList ++ e.message))
    else .error (.unsupported "XLSX output requires building with the \x60xlsx\x60 feature".toList)

end Format

end SchemaSheet
