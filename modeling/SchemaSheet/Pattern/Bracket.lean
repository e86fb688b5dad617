import SchemaSheet.Pattern.Reader

/-! Reading character classes in brackets. A class is the union of its items; two unions may be
combined by an operator, and operators group to the left. -/

namespace SchemaSheet.Pattern

structure ClassBody where
  /-- The items of the current union, the last one first, and their span. -/
  items : List ClassTree := []
  span : Span
  /-- The operator before the current union, and what stands before it. -/
  before : Option (SetOperation × ClassTree) := none

namespace ClassBody

def push (b : ClassBody) (t : ClassTree) : ClassBody :=
  let start := if b.items.isEmpty then t.span.start else b.span.start
  { b with items := t :: b.items, span := ⟨start, t.span.stop⟩ }

def union (b : ClassBody) : ClassTree :=
  match b.items with
  | [] => .nothing b.span
  | [t] => t
  | ts => .union b.span ts.reverse

def close (b : ClassBody) : ClassTree :=
  match b.before with
  | none => b.union
  | some (kind, left) =>
    .operation ⟨left.span.start, b.union.span.stop⟩ kind left b.union

/-- The class with an operator behind it, and nothing yet behind that. -/
def operate (b : ClassBody) (kind : SetOperation) (p : Position) : ClassBody where
  span := .empty p
  before := some (kind, b.close)

end ClassBody

structure OpenBracket where
  span : Span
  negated : Bool

namespace Read

def asciiKind? (name : Text) : Option AsciiKind :=
  ([("alnum", .alnum), ("alpha", .alpha), ("ascii", .ascii), ("blank", .blank),
    ("cntrl", .cntrl), ("digit", .digit), ("graph", .graph), ("lower", .lower),
    ("print", .print), ("punct", .punct), ("space", .space), ("upper", .upper),
    ("word", .word), ("xdigit", .xdigit)] : List (String × AsciiKind)).findSome? fun (n, kind) =>
      if n.toList = name then some kind else none

def asciiClass? (r : Reader) : Option (ClassTree × Reader) := do
  let inside ← r.after? "[:".toList
  let negated := inside.sees '^'
  let named := if negated then inside.bump else inside
  let name := named.rest.takeWhile (· != ':')
  let stop ← (named.bumpBy name.length).after? ":]".toList
  let kind ← asciiKind? name
  return (.ascii ⟨r.position, stop.position⟩ kind negated, stop)

/-- The dashes that a class may begin with. -/
def leadingDashes (start : Position) : Nat → ClassBody → Read ClassBody
  | 0, b => return b
  | n + 1, b => do
    let r ← get
    if r.sees '-' then
      let b := b.push (.literal ⟨r.charSpan, '-', false⟩)
      if !(← advance) then fail (.empty start) .classUnclosed
      leadingDashes start n b
    else return b

/-- The opening bracket of a class, and what stands for itself only behind it. -/
def openBracket : Read (OpenBracket × ClassBody) := do
  let start ← here
  let unclosed : Read Unit := do fail (← spanFrom start) .classUnclosed
  if !(← advance) then unclosed
  let negated := (← get).sees '^'
  if negated then
    if !(← advance) then unclosed
  let b ← leadingDashes start (← get).rest.length { span := .empty (← here) }
  let r ← get
  if b.items.isEmpty && r.sees ']' then
    let b := b.push (.literal ⟨r.charSpan, ']', false⟩)
    if !(← advance) then unclosed
    return (⟨← spanFrom start, negated⟩, b)
  return (⟨← spanFrom start, negated⟩, b)

def classPrimitive : Read Tree := do
  match ← peek with
  | some '\\' => escape
  | some c =>
    let s := (← get).charSpan
    bump
    return .literal ⟨s, c, false⟩
  | none => return .nothing (.empty (← here))

def itemOf : Tree → Read ClassTree
  | .literal l => return .literal l
  | .shorthand s => return .shorthand s
  | .property p => return .property p
  | t => fail t.span .classEscapeInvalid

def literalOf : Tree → Read Literal
  | .literal l => return l
  | t => fail t.span .classRangeLiteral

/-- An item of a class, or a range. A dash before the closing bracket or another dash makes no
range. -/
def classItem (opened : OpenBracket) : Read ClassTree := do
  let first ← classPrimitive
  modify Reader.skip
  let r ← get
  if r.isDone then fail opened.span .classUnclosed
  if !r.sees '-' || r.peekSecond == some ']' || r.peekSecond == some '-' then return ← itemOf first
  if !(← advance) then fail opened.span .classUnclosed
  let last ← classPrimitive
  let span : Span := ⟨first.span.start, last.span.stop⟩
  let first ← literalOf first
  let last ← literalOf last
  if last.char < first.char then fail span .classRangeInvalid
  return .range span first last

def operation? (r : Reader) : Option SetOperation :=
  match r.rest with
  | '&' :: '&' :: _ => some .intersection
  | '-' :: '-' :: _ => some .difference
  | '~' :: '~' :: _ => some .symmetricDifference
  | _ => none

/-- A class up to its closing bracket. Every step reads a character, so that the length of the
pattern is enough for `n`. -/
def classBody (opened : OpenBracket) : Nat → ClassBody → Read ClassTree
  | 0, b => return b.close
  | n + 1, b => do
    modify Reader.skip
    let r ← get
    match r.rest.head? with
    | none => fail opened.span .classUnclosed
    | some ']' => return b.close
    | some '[' =>
      match asciiClass? r with
      | some (t, r') =>
        set r'
        classBody opened n (b.push t)
      | none =>
        let (inner, innerBody) ← openBracket
        let t ← classBody inner n innerBody
        bump
        classBody opened n
          (b.push (.bracketed (← spanFrom inner.span.start) inner.negated t))
    | some _ =>
      match operation? r with
      | some kind =>
        set (r.bumpBy 2)
        classBody opened n (b.operate kind (← here))
      | none => classBody opened n (b.push (← classItem opened))

def bracketed : Read Tree := do
  let (opened, b) ← openBracket
  let t ← classBody opened (← get).rest.length.succ b
  bump
  return .bracketed (← spanFrom opened.span.start) opened.negated t

end Read

end SchemaSheet.Pattern
