import SchemaSheet.Text.Basic

/-! Ranges of code points and their notation in tables. A table is a text of ranges in hexadecimal,
with blanks between them: `41-5A` is a range, `AA` a single code point, and `100-12E/2` is every
second code point of a range. -/

namespace SchemaSheet

structure CodeRange where
  first : Nat
  last : Nat
  /-- The distance between neighbours in the range. -/
  step : Nat := 1
  deriving DecidableEq, Repr

namespace CodeRange

def has (r : CodeRange) (n : Nat) : Bool :=
  r.first ≤ n && n ≤ r.last && (n - r.first) % r.step == 0

def digitValue (c : Char) : Nat := if c.isDigit then c.toNat - 48 else c.toNat - 55

def hexValue (t : Text) : Nat := t.foldl (fun n c => n * 16 + digitValue c) 0

def ofEntry (t : Text) : CodeRange :=
  let bounds := t.takeWhile (· != '/')
  let step := if t.contains '/' then 2 else 1
  match Text.pieces '-' bounds with
  | [first, last] => ⟨hexValue first, hexValue last, step⟩
  | _ => ⟨hexValue bounds, hexValue bounds, step⟩

def read (table : String) : List CodeRange :=
  (((table.toList.map fun c => if c = '\n' then ' ' else c) |> Text.pieces ' ').filter
    (!·.isEmpty)).map ofEntry

end CodeRange

end SchemaSheet
