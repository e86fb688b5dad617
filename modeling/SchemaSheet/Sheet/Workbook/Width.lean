import SchemaSheet.Text.Basic

/-! Column widths. A column is as wide as its widest cell; a cell's width is the sum of the widths
of its characters in pixels, in the longest of its lines, and some padding. -/

namespace SchemaSheet.Workbook

def charPixels (c : Char) : Nat :=
  if " '".toList.contains c then 3
  else if ",.:;I\x60ijl".toList.contains c then 4
  else if "!()-J[]frt\x7b\x7d".toList.contains c then 5
  else if "\"/L\\csz".toList.contains c then 6
  else if "#$*+0123456789<=>?EFSTYZ^_agkvxy|~".toList.contains c then 7
  else if "ADGHUV".toList.contains c then 9
  else if "&NOQ".toList.contains c then 10
  else if "%w".toList.contains c then 11
  else if "Mm".toList.contains c then 12
  else if "@W".toList.contains c then 13
  else 8

def maxPixels : Nat := 1790

/-- Lines of more characters than this are taken to have the greatest width. -/
def maxMeasured : Nat := 233

def linePixels (line : Text) : Nat :=
  if maxMeasured < line.length then maxPixels
  else min maxPixels (line.foldl (fun n c => n + charPixels c) 0)

def padding : Nat := 7

def cellPixels (t : Text) : Nat :=
  let widest := (Text.endedLines t).foldl (fun n l => max n (linePixels l)) 0
  if widest = 0 then 0 else min maxPixels (widest + padding)

def columnPixels (cells : List Text) : Nat := cells.foldl (fun n c => max n (cellPixels c)) 0

/-- A width in character units of seven pixels, counted in parts of 256. -/
structure Width where
  parts : Nat
  deriving DecidableEq, Repr

def Width.ofPixels (p : Nat) : Width := ⟨p * 256 / 7⟩

end SchemaSheet.Workbook
