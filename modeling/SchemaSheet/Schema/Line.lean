import SchemaSheet.Schema.Attributes

/-! What a trimmed line is: a model header, the closing brace, a line to skip, or a column. -/

namespace SchemaSheet.Line

open Text

/-- A first run of characters of one class, if there is one, and what follows it. -/
def run? (p : Char → Bool) (t : Text) : Option (Text × Text) :=
  match t.takeWhile p with
  | [] => none
  | r => some (r, t.dropWhile p)

/-- A header may end in a comment, and in nothing else. -/
def isRemark (t : Text) : Bool := t.isEmpty || (after? "//".toList t).isSome

/-- The name in a header: `model`, blanks, a name and an opening brace. -/
def header? (line : Text) : Option Text := do
  let (_, t) ← run? isBlank (← after? "model".toList line)
  let (name, t) ← run? isWord t
  let t ← after? ['{'] (trimStart t)
  if isRemark (trimStart t) then some name else none

def isClosing (line : Text) : Bool := line == ['}']

/-- Blank lines, comments and block attributes say nothing about columns. -/
def isSkipped (line : Text) : Bool :=
  line.isEmpty || (after? "//".toList line).isSome || (after? "@@".toList line).isSome

def isTypeChar (c : Char) : Bool := isWord c || c == '[' || c == ']' || c == '?'

/-- The column that a line declares: a name, blanks, a type and attributes. -/
def column? (line : Text) : Option Column := do
  let (name, t) ← run? isWord line
  let (_, t) ← run? isBlank t
  let (type, rest) ← run? isTypeChar t
  return { Attributes.ofText rest with
    name := name
    dataType := type.filter (· != '?')
    nullable := type.contains '?' }

end SchemaSheet.Line
