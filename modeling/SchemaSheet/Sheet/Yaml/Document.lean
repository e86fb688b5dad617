import SchemaSheet.Sheet.Mapping
import SchemaSheet.Sheet.Yaml.Scalar

/-! A YAML sequence with one mapping per row; the titles are the keys, in order. -/

namespace SchemaSheet.Yaml

def ofEntry (e : Text × Text) : Text := e.1 ++ ": ".toList ++ ofText e.2

def ofRow (p : Projection) (row : Row) : Text :=
  match row.mapping p with
  | [] => []
  | e :: es => "- ".toList ++ ofEntry e ++ es.flatMap fun e => "  ".toList ++ ofEntry e

def render (rows : List Row) (p : Projection) : Text :=
  match rows with
  | [] => "[]\n".toList
  | _ => rows.flatMap (ofRow p)

end SchemaSheet.Yaml
