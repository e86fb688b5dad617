import SchemaSheet.Sheet.Mapping

/-! An indented JSON array with one object per row; the titles are the keys, in order. -/

namespace SchemaSheet.Json

open Text

def hexDigit (n : Nat) : Char := Nat.digitChar (n % 16)

def escaped (c : Char) : Text :=
  match c with
  | '"' => ['\\', '"']
  | '\\' => ['\\', '\\']
  | '\x08' => ['\\', 'b']
  | '\x0C' => ['\\', 'f']
  | '\n' => ['\\', 'n']
  | '\r' => ['\\', 'r']
  | '\t' => ['\\', 't']
  | c =>
    if c.toNat < 0x20 then ['\\', 'u', '0', '0', hexDigit (c.toNat / 16), hexDigit c.toNat]
    else [c]

def ofText (t : Text) : Text := '"' :: t.flatMap escaped ++ ['"']

def ofEntry (e : Text × Text) : Text :=
  "    ".toList ++ ofText e.1 ++ ": ".toList ++ ofText e.2

def ofRow (p : Projection) (row : Row) : Text :=
  "  \x7b\n".toList ++ joined ",\n".toList ((row.mapping p).map ofEntry) ++ "\n  \x7d".toList

def render (rows : List Row) (p : Projection) : Text :=
  match rows with
  | [] => "[]\n".toList
  | _ => "[\n".toList ++ joined ",\n".toList (rows.map (ofRow p)) ++ "\n]\n".toList

end SchemaSheet.Json
