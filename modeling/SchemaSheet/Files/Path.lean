import SchemaSheet.Text.Basic

/-! Paths as they are written. A path is cut at its slashes; empty pieces and `.` name nothing,
except for a `.` that a relative path begins with. -/

namespace SchemaSheet

abbrev Path := Text

namespace Path

open Text

/-- Pieces that a path may be freed of. -/
def isIdle (piece : Text) : Bool := piece.isEmpty || piece == ['.']

/-- The path with the first piece `first` and further pieces, the last of which comes first. -/
def assemble (first : Text) (rest : List Text) : Path :=
  if first.isEmpty && rest.isEmpty then ['/'] else joined ['/'] (first :: rest.reverse)

/-- The path of which `rest` are the pieces behind `first`, in reverse, and all that contain it,
the nearest first. -/
def chain (first : Text) : List Text → List Path
  | [] => [assemble first []]
  | p :: ps => if isIdle p then chain first ps else assemble first (p :: ps) :: chain first ps

/-- A path without idle pieces at its end, its parent, the parent of that and so on. It ends at the
root or at the first piece. -/
def ancestors (path : Path) : List Path :=
  if path.isEmpty then []
  else match pieces '/' path with
    | [] => []
    | first :: rest => chain first rest.reverse

/-- The directories that contain what a path names, the nearest first. -/
def parents (path : Path) : List Path := (ancestors path).tail

def lastPiece? (path : Path) : Option Text :=
  match pieces '/' path with
  | [] => none
  | first :: rest =>
    match rest.reverse.find? (!isIdle ·) with
    | some p => some p
    | none => if isIdle first then none else some first

/-- The name of what a path names. Going up is no name. -/
def fileName? (path : Path) : Option Text :=
  (lastPiece? path).filter (· != "..".toList)

/-- What follows the last dot of a name, unless that dot is its first character. -/
def extension? (path : Path) : Option Text := do
  let name ← fileName? path
  let reversed := name.reverse
  match reversed.dropWhile (· != '.') with
  | _ :: _ :: _ => some (reversed.takeWhile (· != '.')).reverse
  | _ => none

end Path

end SchemaSheet
