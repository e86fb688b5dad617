import SchemaSheet.Pattern.Tree
import SchemaSheet.Text.Blank
import SchemaSheet.Text.Numeral

/-! Reading patterns, character by character. In verbose patterns blanks and comments mean nothing
between most characters. -/

namespace SchemaSheet.Pattern

open Text

structure Reader where
  rest : Text
  position : Position := {}
  verbose : Bool := false
  /-- The names of groups. -/
  names : List (Text × Span) := []
  deriving DecidableEq, Repr

namespace Reader

def bump (r : Reader) : Reader :=
  match r.rest with
  | [] => r
  | c :: cs => { r with rest := cs, position := r.position.after c }

/-- The position and the rest behind blanks and comments. A comment ends with its line. -/
def behindBlanks (inComment : Bool) (p : Position) : Text → Position × Text
  | [] => (p, [])
  | c :: cs =>
    if inComment then behindBlanks (c != '\n') (p.after c) cs
    else if isBlank c then behindBlanks false (p.after c) cs
    else if c = '#' then behindBlanks true (p.after c) cs
    else (p, c :: cs)

/-- The reader behind blanks and comments, if the pattern is verbose. -/
def skip (r : Reader) : Reader :=
  if r.verbose then
    let (p, rest) := behindBlanks false r.position r.rest
    { r with rest := rest, position := p }
  else r

/-- The reader behind the next character and what may be skipped after it. -/
def next (r : Reader) : Reader := r.bump.skip

def isDone (r : Reader) : Bool := r.rest.isEmpty

def sees (r : Reader) (c : Char) : Bool := r.rest.head? == some c

def charSpan (r : Reader) : Span :=
  match r.rest with
  | [] => .empty r.position
  | c :: _ => .ofChar r.position c

def spanFrom (p : Char → Bool) (r : Reader) : Nat → Text × Reader
  | 0 => ([], r)
  | n + 1 =>
    match r.rest with
    | [] => ([], r)
    | c :: _ =>
      if p c then
        let (t, r') := r.next.spanFrom p n
        (c :: t, r')
      else ([], r)

def span (p : Char → Bool) (r : Reader) : Text × Reader := r.spanFrom p r.rest.length

def bumpBy (r : Reader) : Nat → Reader
  | 0 => r
  | n + 1 => r.bump.bumpBy n

def after? (start : Text) (r : Reader) : Option Reader :=
  if start.isPrefixOf r.rest then some (r.bumpBy start.length) else none

def second (inComment : Bool) : Text → Option Char
  | [] => none
  | c :: cs =>
    if isBlank c then second inComment cs
    else if !inComment && c == '#' then second true cs
    else some c

/-- The character after the next one, or after what may be skipped behind it. -/
def peekSecond (r : Reader) : Option Char :=
  if r.verbose then second false (r.rest.drop 1) else (r.rest.drop 1).head?

end Reader

abbrev Read := StateT Reader (Except Fault)

namespace Read

def fail {α : Type} (s : Span) (c : Cause) : Read α := throw ⟨s, c, none⟩

def here : Read Position := return (← get).position

def spanFrom (start : Position) : Read Span := return ⟨start, ← here⟩

def bump : Read Unit := modify Reader.bump

def advance : Read Bool := do
  modify Reader.next
  return !(← get).isDone

def peek : Read (Option Char) := return (← get).rest.head?

def failHere {α : Type} (c : Cause) : Read α := do fail (← get).charSpan c

def hexDigits : Nat → Read Text
  | 0 => return []
  | n + 1 => do
    match ← peek with
    | none => fail (.empty (← here)) .escapeUnfinished
    | some c =>
      if !isHexDigit c then failHere .hexDigitInvalid
      let more ← advance
      if n ≠ 0 ∧ !more then fail (.empty (← here)) .escapeUnfinished
      return c :: (← hexDigits n)

/-- A character by its code point, behind the letter that says how many digits it has. -/
def hexLiteral (start : Position) (letter : Char) : Read Tree := do
  if !(← advance) then fail (.empty (← here)) .escapeUnfinished
  let brace ← here
  if (← get).sees '\x7B' then
    discard advance
    let first := brace.after '\x7B'
    let (digits, r) := (← get).span isHexDigit
    set r
    match r.rest.head? with
    | none => fail ⟨brace, r.position⟩ .escapeUnfinished
    | some '\x7D' =>
      let stop := r.position
      discard advance
      if digits.isEmpty then fail (← spanFrom brace) .hexEmpty
      match hexChar? digits with
      | some c => return .literal ⟨← spanFrom start, c, false⟩
      | none => fail ⟨first, stop⟩ .hexInvalid
    | some _ => failHere .hexDigitInvalid
  else
    let digits ← hexDigits (if letter = 'x' then 2 else if letter = 'u' then 4 else 8)
    match hexChar? digits with
    | some c => return .literal ⟨← spanFrom start, c, letter = 'x'⟩
    | none => fail (← spanFrom brace) .hexInvalid

def queryOf (t : Text) : Query :=
  let cut (c : Char) : Query := .value (t.takeWhile (· != c)) ((t.dropWhile (· != c)).drop 1)
  let rec unequal : Text → Text → Option Query
    | before, '!' :: '=' :: rest => some (.value before rest)
    | before, c :: rest => unequal (before ++ [c]) rest
    | _, [] => none
  match unequal [] t with
  | some q => q
  | none => if t.contains ':' then cut ':' else if t.contains '=' then cut '=' else .name t

def propertyClass (start : Position) (negated : Bool) : Read Tree := do
  if !(← advance) then fail (.empty (← here)) .escapeUnfinished
  match ← peek with
  | some '\x7B' =>
    discard advance
    let (name, r) := (← get).span (· != '\x7D')
    set r
    if r.isDone then fail (.empty r.position) .escapeUnfinished
    bump
    return .property ⟨← spanFrom start, negated, queryOf name⟩
  | some '\\' => failHere .propertyClassInvalid
  | some c =>
    discard advance
    return .property ⟨← spanFrom start, negated, .name [c]⟩
  | none => fail (.empty (← here)) .escapeUnfinished

def isMeta (c : Char) : Bool := "\\.+*?()|[]\x7B\x7D^$#&-~".toList.contains c

/-- Characters that stand for themselves behind a backslash: those of ASCII without letters, digits
and angle brackets. -/
def isEscapable (c : Char) : Bool :=
  isMeta c || c.toNat < 0x80 && !c.isAlphanum && c != '<' && c != '>'

def controlOf? : Char → Option Char
  | 'a' => some '\x07'
  | 'f' => some '\x0C'
  | 't' => some '\t'
  | 'n' => some '\n'
  | 'r' => some '\r'
  | 'v' => some '\x0B'
  | _ => none

def shorthandOf? : Char → Option (ShorthandKind × Bool)
  | 'd' => some (.digit, false)
  | 'D' => some (.digit, true)
  | 's' => some (.space, false)
  | 'S' => some (.space, true)
  | 'w' => some (.word, false)
  | 'W' => some (.word, true)
  | _ => none

def assertionOf? : Char → Option Assertion
  | 'A' => some .textStart
  | 'z' => some .textEnd
  | 'b' => some .wordBoundary
  | 'B' => some .notWordBoundary
  | '<' => some .wordStart
  | '>' => some .wordEnd
  | _ => none

def boundaryOf? (name : Text) : Option Assertion :=
  if name = "start".toList then some .wordStart
  else if name = "end".toList then some .wordEnd
  else if name = "start-half".toList then some .wordStartHalf
  else if name = "end-half".toList then some .wordEndHalf
  else none

def isBoundaryChar (c : Char) : Bool := c.isAlpha || c == '-'

/-- The name of a kind of word boundary in braces, unless the braces hold a count. -/
def boundaryName? (start : Position) : Read (Option Assertion) := do
  let before ← get
  if !(← advance) then fail (← spanFrom start) .wordBoundaryUnfinished
  let first ← here
  if !((← peek).any isBoundaryChar) then
    set before
    return none
  let (name, r) := (← get).span isBoundaryChar
  set r
  if !r.sees '\x7D' then fail ⟨before.position, r.position⟩ .wordBoundaryUnclosed
  bump
  match boundaryOf? name with
  | some a => return some a
  | none => fail ⟨first, r.position⟩ .wordBoundaryUnrecognized

def escape : Read Tree := do
  let start ← here
  bump
  match ← peek with
  | none => fail (← spanFrom start) .escapeUnfinished
  | some c =>
    if c.isDigit then fail ⟨start, (← get).charSpan.stop⟩ .backreference
    if c = 'x' ∨ c = 'u' ∨ c = 'U' then return ← hexLiteral start c
    if c = 'p' ∨ c = 'P' then return ← propertyClass start (c = 'P')
    bump
    let s ← spanFrom start
    if isEscapable c then return .literal ⟨s, c, false⟩
    match shorthandOf? c, controlOf? c, assertionOf? c with
    | some (kind, negated), _, _ => return .shorthand ⟨s, kind, negated⟩
    | _, some d, _ => return .literal ⟨s, d, false⟩
    | _, _, some a =>
      if c = 'b' ∧ (← get).sees '\x7B' then
        match ← boundaryName? start with
        | some a => return .assertion (← spanFrom start) a
        | none => return .assertion s a
      else return .assertion s a
    | none, none, none => fail s .escapeUnrecognized

def primitive : Read Tree := do
  match ← peek with
  | some '\\' => escape
  | some c =>
    let s := (← get).charSpan
    bump
    match c with
    | '.' => return .dot s
    | '^' => return .assertion s .lineStart
    | '$' => return .assertion s .lineEnd
    | c => return .literal ⟨s, c, false⟩
  | none => return .nothing (.empty (← here))

end Read

end SchemaSheet.Pattern
