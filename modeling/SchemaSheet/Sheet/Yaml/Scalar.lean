import SchemaSheet.Sheet.Yaml.Number

/-! The four ways to write a text as a YAML scalar, and the choice among them. Lines are not
folded, and characters beyond ASCII are written as they are. -/

namespace SchemaSheet.Yaml

open Text

def isBreak (c : Char) : Bool :=
  c == '\n' || c == '\r' || c == '\u0085' || c == '\u2028' || c == '\u2029'

/-- Characters that only an escape can write. -/
def isSpecial (c : Char) : Bool :=
  let n := c.toNat
  !(c == '\n' || (0x20 ≤ n && n ≤ 0x7E) ||
    (0xA0 ≤ n && n != 0xFEFF && n != 0xFFFE && n != 0xFFFF))

/-- Characters that end a token. -/
def isGap (c : Char) : Bool := c == ' ' || c == '\t' || isBreak c || c == '\x00'

def endsToken : Text → Bool
  | [] => true
  | c :: _ => isGap c

/-- Whether a colon before a gap or a number sign after one occurs behind the character `before`. -/
def hasIndicator (before : Char) : Text → Bool
  | [] => false
  | c :: cs => (c == ':' && endsToken cs) || (c == '#' && isGap before) || hasIndicator c cs

def isIndicator (c : Char) : Bool :=
  "#,[]\x7b\x7d&*!|>'\"%@\x60".toList.contains c

def hasNeighbours (p : Char → Char → Bool) : Text → Bool
  | c :: d :: cs => p c d || hasNeighbours p (d :: cs)
  | _ => false

def isEdge (c : Char) : Bool := c == ' ' || isBreak c

/-- A text that stands for itself. -/
def canBePlain (t : Text) : Bool :=
  match t with
  | [] => false
  | c :: cs =>
    !(isEdge c || isEdge (cs.getLastD c) || t.any isBreak || t.any isSpecial ||
      (after? "---".toList t).isSome || (after? "...".toList t).isSome || isIndicator c ||
      ((c == '?' || c == ':' || c == '-') && endsToken cs) || hasIndicator c cs)

def canBeSingle (t : Text) : Bool :=
  !(t.any isSpecial || hasNeighbours (fun c d => isBreak c && d == ' ') t ||
    hasNeighbours (fun c d => c == ' ' && isBreak d) t)

def canBeLiteral (t : Text) : Bool :=
  !(t.any isSpecial || t.getLast? == some ' ' ||
    hasNeighbours (fun c d => c == ' ' && isBreak d) t)

inductive Style where
  | plain | single | double | literal
  deriving DecidableEq, Repr

/-- The style in which a text is written. A text of several lines is a literal and anything that
would not be read as text is quoted, both if they can. -/
def Style.of (t : Text) : Style :=
  if t.contains '\n' then if canBeLiteral t then literal else double
  else if !(t.isEmpty || isForeign t) && canBePlain t then plain
  else if canBeSingle t then single
  else double

def indent : Text := "    ".toList

/-- The inside of single quotes. What follows a line break is indented; `fresh` tells that one
came right before. -/
def singleBody (fresh : Bool) : Text → Text
  | [] => if fresh then indent else []
  | c :: cs =>
    if isBreak c then c :: singleBody true cs
    else (if fresh then indent else []) ++ (if c = '\'' then ['\'', '\''] else [c]) ++
      singleBody false cs

def hexNumeral : Nat → Nat → Text
  | 0, _ => []
  | k + 1, n => hexNumeral k (n / 16) ++ [(Nat.digitChar (n % 16)).toUpper]

def escaped (c : Char) : Text :=
  match c with
  | '\x00' => ['\\', '0']
  | '\x07' => ['\\', 'a']
  | '\x08' => ['\\', 'b']
  | '\t' => ['\\', 't']
  | '\n' => ['\\', 'n']
  | '\x0B' => ['\\', 'v']
  | '\x0C' => ['\\', 'f']
  | '\r' => ['\\', 'r']
  | '\x1B' => ['\\', 'e']
  | '"' => ['\\', '"']
  | '\\' => ['\\', '\\']
  | '\u0085' => ['\\', 'N']
  | '\u2028' => ['\\', 'L']
  | '\u2029' => ['\\', 'P']
  | c =>
    if !isSpecial c then [c]
    else if c.toNat < 0x100 then '\\' :: 'x' :: hexNumeral 2 c.toNat
    else if c.toNat < 0x10000 then '\\' :: 'u' :: hexNumeral 4 c.toNat
    else '\\' :: 'U' :: hexNumeral 8 c.toNat

def literalBody (fresh : Bool) : Text → Text
  | [] => []
  | c :: cs =>
    if isBreak c then c :: literalBody true cs
    else (if fresh then indent else []) ++ c :: literalBody false cs

/-- A literal that starts with a space or a break tells its indentation. -/
def indentationHint : Text → Text
  | [] => []
  | c :: _ => if isEdge c then ['2'] else []

/-- Whether the last break of a literal is missing, the only one at its end, or one of several. -/
def chompingHint (t : Text) : Text :=
  match t.reverse with
  | [] => ['-']
  | [c] => if isBreak c then ['+'] else ['-']
  | c :: d :: _ => if !isBreak c then ['-'] else if isBreak d then ['+'] else []

/-- A text as the value of an entry, with the break that ends the entry. A literal that ends in a
break has it already. -/
def ofText (t : Text) : Text :=
  match Style.of t with
  | .plain => t ++ ['\n']
  | .single => '\'' :: singleBody false t ++ ['\'', '\n']
  | .double => '"' :: t.flatMap escaped ++ ['"', '\n']
  | .literal =>
    '|' :: indentationHint t ++ chompingHint t ++ '\n' :: literalBody true t ++
      if (t.getLast?).any isBreak then [] else ['\n']

end SchemaSheet.Yaml
