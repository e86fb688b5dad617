import SchemaSheet.Pattern.Expr
import SchemaSheet.Pattern.Property

/-! From patterns as they are written to what they mean. Flags change what the parts behind them
mean, up to the end of their group. Patterns match well formed text only: where characters are not
Unicode's, sets must hold ASCII characters only. -/

namespace SchemaSheet.Pattern

structure Flags where
  caseless : Bool := false
  multiline : Bool := false
  dotAll : Bool := false
  unicode : Bool := true
  crlf : Bool := false
  deriving DecidableEq, Repr

namespace Flags

def set (f : Flags) (on : Bool) : Flag → Flags
  | .caseless => { f with caseless := on }
  | .multiline => { f with multiline := on }
  | .dotAll => { f with dotAll := on }
  | .unicode => { f with unicode := on }
  | .crlf => { f with crlf := on }
  | .swapGreed | .verbose => f

def apply (f : Flags) (on : Bool) : List FlagItem → Flags
  | [] => f
  | ⟨_, none⟩ :: rest => apply f false rest
  | ⟨_, some flag⟩ :: rest => apply (f.set on flag) on rest

/-- All forms of the characters of a set, if case does not matter. -/
def fold (f : Flags) (s : CharSet) : CharSet :=
  if !f.caseless then s else if f.unicode then .anyCase s else .anyAsciiCase s

end Flags

def failAt {α : Type} (s : Span) (c : Cause) : Except Fault α := .error ⟨s, c, none⟩

/-- The set itself where characters are Unicode's, or if it holds ASCII characters only. -/
def checked (f : Flags) (span : Span) (s : CharSet) : Except Fault CharSet :=
  if f.unicode || s.isAsciiOnly then .ok s else failAt span .invalidUtf8

def folded (f : Flags) (span : Span) (negated : Bool) (s : CharSet) : Except Fault CharSet :=
  checked f span (if negated then .compl (f.fold s) else f.fold s)

def digits : CharSet := .ofTable Unicode.decimalNumber

def asciiDigits : CharSet := .ofTable "30-39"

def asciiSpaces : CharSet := .ofTable "9-D 20"

def asciiWords : CharSet := .ofTable "30-39 41-5A 5F 61-7A"

def words : CharSet :=
  .union asciiWords (.ranges (Text.wordRanges.map fun (first, last) => ⟨first, last, 1⟩))

def ShorthandKind.set (f : Flags) : ShorthandKind → CharSet
  | digit => if f.unicode then digits else asciiDigits
  | space => if f.unicode then Unicode.whiteSpace else asciiSpaces
  | word => if f.unicode then words else asciiWords

def AsciiKind.set : AsciiKind → CharSet
  | alnum => .ofTable "30-39 41-5A 61-7A"
  | alpha => .ofTable "41-5A 61-7A"
  | ascii => .ofTable "0-7F"
  | blank => .ofTable "9 20"
  | cntrl => .ofTable "0-1F 7F"
  | digit => asciiDigits
  | graph => .ofTable "21-7E"
  | lower => .ofTable "61-7A"
  | print => .ofTable "20-7E"
  | punct => .ofTable "21-2F 3A-40 5B-60 7B-7E"
  | space => asciiSpaces
  | upper => .ofTable "41-5A"
  | word => asciiWords
  | xdigit => .ofTable "30-39 41-46 61-66"

def Shorthand.set (f : Flags) (s : Shorthand) : Except Fault CharSet :=
  let set := s.kind.set f
  checked f s.span (if s.negated then .compl set else set)

def PropertyClass.set (f : Flags) (p : PropertyClass) : Except Fault CharSet :=
  if !f.unicode then failAt p.span .unicodeNotAllowed
  else match p.query.set with
    | .ok s => folded f p.span p.negated s
    | .error c => failAt p.span c

/-- The character of a literal. A byte beyond ASCII is none where characters are not Unicode's. -/
def Literal.scalar (f : Flags) (l : Literal) : Except Fault Char :=
  if !f.unicode && l.asByte && 0x80 ≤ l.char.toNat then failAt l.span .invalidUtf8 else .ok l.char

def Literal.inClass (f : Flags) (l : Literal) : Except Fault Char := do
  let c ← l.scalar f
  if f.unicode || c.toNat < 0x80 then .ok c else failAt l.span .unicodeNotAllowed

def SetOperation.apply : SetOperation → CharSet → CharSet → CharSet
  | intersection => .inter
  | difference => .diff
  | symmetricDifference => .symmDiff

mutual

def ClassTree.set (f : Flags) : ClassTree → Except Fault CharSet
  | .nothing _ => .ok .empty
  | .literal l => do return .single (← l.inClass f)
  | .range _ first last => do
    let first ← first.inClass f
    let last ← last.inClass f
    return .range first.toNat last.toNat
  | .ascii s kind negated => folded f s negated kind.set
  | .property p => p.set f
  | .shorthand s => s.set f
  | .bracketed s negated inner => do folded f s negated (← inner.set f)
  | .union _ items => ClassTree.setOfAll f items
  | .operation _ kind left right => do
    let left ← left.set f
    let right ← right.set f
    return kind.apply (f.fold left) (f.fold right)

def ClassTree.setOfAll (f : Flags) : List ClassTree → Except Fault CharSet
  | [] => .ok .empty
  | t :: ts => do
    let s ← t.set f
    return .union s (← ClassTree.setOfAll f ts)

end

def Assertion.look (f : Flags) : Assertion → Look
  | lineStart => if !f.multiline then .textStart else if f.crlf then .crlfStart else .lineStart
  | lineEnd => if !f.multiline then .textEnd else if f.crlf then .crlfEnd else .lineEnd
  | textStart => .textStart
  | textEnd => .textEnd
  | wordBoundary => .word .either (!f.unicode)
  | notWordBoundary => .word .neither (!f.unicode)
  | wordStart => .word .start (!f.unicode)
  | wordEnd => .word .stop (!f.unicode)
  | wordStartHalf => .word .startHalf (!f.unicode)
  | wordEndHalf => .word .stopHalf (!f.unicode)

/-- What a dot stands for: all characters, or those that end no line. -/
def Flags.dot (f : Flags) (span : Span) : Except Fault CharSet :=
  if !f.unicode then failAt span .invalidUtf8
  else .ok (if f.dotAll then .all
    else .compl (if f.crlf then .ofTable "A D" else .ofTable "A"))

mutual

/-- What a pattern means behind some flags, and the flags behind it. -/
def Tree.meaning (f : Flags) : Tree → Except Fault (Expr × Flags)
  | .nothing _ => .ok (.nothing, f)
  | .flags _ items => .ok (.nothing, f.apply true items)
  | .literal l => do return (.chars (f.fold (.single (← l.scalar f))), f)
  | .dot s => do return (.chars (← f.dot s), f)
  | .assertion _ a => .ok (.look (a.look f), f)
  | .property p => do return (.chars (← p.set f), f)
  | .shorthand s => do return (.chars (← s.set f), f)
  | .bracketed s negated inner => do
    return (.chars (← folded f s negated (← inner.set f)), f)
  | .repetition _ least most inner => do
    let (e, f') ← inner.meaning f
    return (.many least most e, f')
  | .group _ items inner => do
    let (e, _) ← inner.meaning (f.apply true items)
    return (e, f)
  | .alternation _ branches => do
    let (es, f') ← Tree.meanings f branches
    return (.ofBranches es, f')
  | .concat _ parts => do
    let (es, f') ← Tree.meanings f parts
    return (.ofParts es, f')

def Tree.meanings (f : Flags) : List Tree → Except Fault (List Expr × Flags)
  | [] => .ok ([], f)
  | t :: ts => do
    let (e, f') ← t.meaning f
    let (es, f'') ← Tree.meanings f' ts
    return (e :: es, f'')

end

end SchemaSheet.Pattern
