import SchemaSheet.Pattern.Bracket
import SchemaSheet.Unicode.Property

/-! Reading patterns as a whole: groups, repetitions and alternatives. -/

namespace SchemaSheet.Pattern

open Text

/-- A group so far. -/
structure Body where
  /-- The parts of the current branch, the last one first, and where the branch starts. -/
  parts : List Tree := []
  start : Position
  /-- The branches before it, the last one first, and where the first one starts. -/
  branches : List Tree := []
  origin : Position

namespace Body

def opened (p : Position) : Body where
  start := p
  origin := p

def push (b : Body) (t : Tree) : Body := { b with parts := t :: b.parts }

def branch (b : Body) (stop : Position) : Tree := .ofParts ⟨b.start, stop⟩ b.parts.reverse

def branched (b : Body) (stop start : Position) : Body :=
  { b with parts := [], start := start, branches := b.branch stop :: b.branches }

def close (b : Body) (stop : Position) : Tree :=
  match b.branches with
  | [] => b.branch stop
  | bs => .alternation ⟨b.origin, stop⟩ (b.branch stop :: bs).reverse

end Body

namespace Read

def flagOf? : Char → Option Flag
  | 'i' => some .caseless
  | 'm' => some .multiline
  | 's' => some .dotAll
  | 'U' => some .swapGreed
  | 'u' => some .unicode
  | 'R' => some .crlf
  | 'x' => some .verbose
  | _ => none

def addFlag (items : List FlagItem) (item : FlagItem) : Except Fault (List FlagItem) :=
  match items.find? (·.flag == item.flag) with
  | none => .ok (items ++ [item])
  | some same =>
    let cause : Cause := if item.flag.isNone then .flagNegationRepeated else .flagDuplicate
    .error ⟨item.span, cause, some same.span⟩

def flagItems (items : List FlagItem) : Nat → Read (List FlagItem)
  | 0 => return items
  | n + 1 => do
    let r ← get
    match r.rest.head? with
    | none => fail (.empty r.position) .flagUnfinished
    | some c =>
      if c = ':' ∨ c = ')' then
        match items.getLast? with
        | some ⟨s, none⟩ => fail s .flagNegationDangling
        | _ => return items
      else
        let flag := flagOf? c
        if c ≠ '-' ∧ flag = none then failHere .flagUnrecognized
        let items ← addFlag items ⟨r.charSpan, flag⟩
        bump
        flagItems items n

def isNameChar (first : Bool) (c : Char) : Bool :=
  if first then c == '_' || Unicode.alphabetic.has c.toNat
  else c == '_' || c == '.' || c == '[' || c == ']' || Unicode.alphanumeric.has c.toNat

def nameChars (first : Bool) : Nat → Read Text
  | 0 => return []
  | n + 1 => do
    match ← peek with
    | none => return []
    | some '>' => return []
    | some c =>
      if !isNameChar first c then failHere .groupNameInvalid
      bump
      return c :: (← nameChars false n)

/-- Reads the name of a group, which no other group may have. -/
def groupName : Read Unit := do
  let start ← here
  let name ← nameChars true (← get).rest.length
  let span ← spanFrom start
  let r ← get
  if r.isDone then fail (.empty r.position) .groupNameUnfinished
  bump
  if name.isEmpty then fail (.empty start) .groupNameEmpty
  match r.names.lookup name with
  | some same => throw ⟨span, .groupNameDuplicate, some same⟩
  | none => modify fun r => { r with names := (name, span) :: r.names }

/-- What an opening parenthesis begins: a group with flags of its own, or flags for what follows. -/
inductive Opening where
  | group (items : List FlagItem)
  | flags (items : List FlagItem)

def anyOf? (starts : List String) : Read (Option String) := do
  let r ← get
  match starts.find? (·.toList.isPrefixOf r.rest) with
  | some s =>
    set (r.bumpBy s.length)
    return some s
  | none => return none

def opening (start : Position) : Read Opening := do
  let openSpan := (← get).charSpan
  bump
  modify Reader.skip
  if (← anyOf? ["?=", "?!", "?<=", "?<!"]).isSome then fail (← spanFrom start) .lookAround
  let inner ← here
  if (← anyOf? ["?P<", "?<"]).isSome then
    groupName
    return .group []
  if (← anyOf? ["?"]).isSome then
    if (← get).isDone then fail openSpan .groupUnclosed
    let items ← flagItems [] (← get).rest.length.succ
    let closed := (← get).sees ')'
    bump
    if closed then
      if items.isEmpty then fail (.empty inner) .repetitionMissing
      return .flags items
    return .group items
  return .group []

def flagState? (items : List FlagItem) (f : Flag) : Option Bool :=
  if items.any (·.flag == some f) then
    some (!(items.takeWhile (·.flag != some f)).any (·.flag.isNone))
  else none

def setVerbose (items : List FlagItem) : Read Unit := modify fun r =>
  { r with verbose := (flagState? items .verbose).getD r.verbose }

/-- Splits off the part that an operator repeats. Flags cannot be repeated. -/
def repeated (b : Body) : Read (Tree × Body) := do
  match b.parts with
  | [] => fail (.empty (← here)) .repetitionMissing
  | .nothing _ :: _ | .flags .. :: _ => fail (.empty (← here)) .repetitionMissing
  | t :: ts => return (t, { b with parts := ts })

/-- A question mark behind an operator makes it lazy, which changes no match's existence. -/
def lazyMark : Read Unit := do
  if (← get).sees '?' then bump

def uncounted (b : Body) (least : Nat) (most : Option Nat) : Read Body := do
  let (t, b) ← repeated b
  bump
  lazyMark
  return b.push (.repetition ⟨t.span.start, ← here⟩ least most t)

def decimal? : Read (Except Fault Nat) := do
  let r ← get
  let blanks := (r.rest.takeWhile isBlank).length
  let r := r.bumpBy blanks
  let (digits, behind) := r.span Char.isDigit
  let (_, rest) := behind.span isBlank
  set rest
  let span : Span := ⟨r.position, behind.position⟩
  let n := digits.foldl (fun n c => n * 10 + (c.toNat - 48)) 0
  if digits.isEmpty then return .error ⟨span, .decimalEmpty, none⟩
  else if n < Nat.pow 2 32 then return .ok n
  else return .error ⟨span, .decimalInvalid, none⟩

/-- The counts between braces. -/
def counts (start : Position) : Read (Nat × Option Nat) := do
  let unclosed {α : Type} : Read α := do fail (← spanFrom start) .countUnclosed
  if !(← advance) then unclosed
  let least ← decimal?
  match ← peek with
  | none => unclosed
  | some ',' =>
    if !(← advance) then unclosed
    if (← get).sees '\x7D' then return (← least, none)
    let least ← least
    return (least, some (← (← decimal?)))
  | some _ =>
    let n ← least
    return (n, some n)

def counted (b : Body) : Read Body := do
  let start ← here
  let (t, b) ← repeated b
  let (least, most) ← counts start
  if !(← get).sees '\x7D' then fail (← spanFrom start) .countUnclosed
  if ← advance then lazyMark
  if most.any (· < least) then fail (← spanFrom start) .countInvalid
  return b.push (.repetition ⟨t.span.start, ← here⟩ least most t)

/-- A group up to its end. Every step reads a character, so that the length of the pattern is enough
for `n`. -/
def body : Nat → Body → Read Tree
  | 0, b => return b.close (← here)
  | n + 1, b => do
    modify Reader.skip
    let p ← here
    match ← peek with
    | none | some ')' => return b.close p
    | some '|' =>
      bump
      body n (b.branched p (← here))
    | some '(' =>
      let openSpan := (← get).charSpan
      let verbose := (← get).verbose
      match ← opening p with
      | .flags items =>
        setVerbose items
        body n (b.push (.flags (← spanFrom p) items))
      | .group items =>
        setVerbose items
        let t ← body n (.opened (← here))
        if !(← get).sees ')' then fail openSpan .groupUnclosed
        modify fun r => { r with verbose := verbose }
        bump
        body n (b.push (.group (← spanFrom p) items t))
    | some '[' => body n (b.push (← bracketed))
    | some '?' => body n (← uncounted b 0 (some 1))
    | some '*' => body n (← uncounted b 0 none)
    | some '+' => body n (← uncounted b 1 none)
    | some '\x7B' => body n (← counted b)
    | some _ => body n (b.push (← primitive))

def whole : Read Tree := do
  let t ← body (← get).rest.length.succ (.opened {})
  if (← get).sees ')' then failHere .groupUnopened
  match t.tooDeep 0 with
  | some s => fail s .nestingExceeded
  | none => return t

end Read

def Tree.ofText (t : Text) : Except Fault Tree := (·.1) <$> Read.whole.run { rest := t }

end SchemaSheet.Pattern
