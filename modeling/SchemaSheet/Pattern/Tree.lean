import SchemaSheet.Pattern.Fault

/-! Patterns as they are written: trees whose nodes know where they stand. -/

namespace SchemaSheet.Pattern

inductive Flag where
  | caseless
  | multiline
  | dotAll
  | swapGreed
  | unicode
  | crlf
  | verbose
  deriving DecidableEq, Repr

structure FlagItem where
  span : Span
  /-- None for the dash. -/
  flag : Option Flag
  deriving DecidableEq, Repr

structure Literal where
  span : Span
  char : Char
  /-- Whether it is written as a byte, by two hexadecimal digits. -/
  asByte : Bool := false
  deriving DecidableEq, Repr

inductive Assertion where
  | lineStart
  | lineEnd
  | textStart
  | textEnd
  | wordBoundary
  | notWordBoundary
  | wordStart
  | wordEnd
  | wordStartHalf
  | wordEndHalf
  deriving DecidableEq, Repr

inductive ShorthandKind where
  | digit
  | space
  | word
  deriving DecidableEq, Repr

structure Shorthand where
  span : Span
  kind : ShorthandKind
  negated : Bool
  deriving DecidableEq, Repr

inductive Query where
  | name (t : Text)
  | value (property value : Text)
  deriving DecidableEq, Repr

structure PropertyClass where
  span : Span
  negated : Bool
  query : Query
  deriving DecidableEq, Repr

inductive AsciiKind where
  | alnum | alpha | ascii | blank | cntrl | digit | graph | lower | print | punct | space | upper
  | word | xdigit
  deriving DecidableEq, Repr

inductive SetOperation where
  | intersection
  | difference
  | symmetricDifference
  deriving DecidableEq, Repr

inductive ClassTree where
  | nothing (span : Span)
  | literal (l : Literal)
  | range (span : Span) (first last : Literal)
  | ascii (span : Span) (kind : AsciiKind) (negated : Bool)
  | property (p : PropertyClass)
  | shorthand (s : Shorthand)
  | bracketed (span : Span) (negated : Bool) (inner : ClassTree)
  | union (span : Span) (items : List ClassTree)
  | operation (span : Span) (kind : SetOperation) (left right : ClassTree)
  deriving Repr

def ClassTree.span : ClassTree → Span
  | nothing s | range s _ _ | ascii s _ _ | bracketed s _ _ | union s _ | operation s _ _ _ => s
  | literal l => l.span
  | property p => p.span
  | shorthand s => s.span

inductive Tree where
  | nothing (span : Span)
  | flags (span : Span) (items : List FlagItem)
  | literal (l : Literal)
  | dot (span : Span)
  | assertion (span : Span) (a : Assertion)
  | property (p : PropertyClass)
  | shorthand (s : Shorthand)
  | bracketed (span : Span) (negated : Bool) (inner : ClassTree)
  /-- So many times at least, and at most if there is a limit. -/
  | repetition (span : Span) (least : Nat) (most : Option Nat) (inner : Tree)
  | group (span : Span) (items : List FlagItem) (inner : Tree)
  | alternation (span : Span) (branches : List Tree)
  | concat (span : Span) (parts : List Tree)
  deriving Repr

namespace Tree

def span : Tree → Span
  | nothing s | flags s _ | dot s | assertion s _ | bracketed s _ _ | repetition s _ _ _
  | group s _ _ | alternation s _ | concat s _ => s
  | literal l => l.span
  | property p => p.span
  | shorthand s => s.span

def ofParts (span : Span) : List Tree → Tree
  | [] => nothing span
  | [t] => t
  | ts => concat span ts

end Tree

/-- A node one level deeper than `depth`: its span if that is too deep, or else what is wrong in
it. -/
def enter (depth : Nat) (span : Span) (inner : Nat → Option Span) : Option Span :=
  if nestingLimit ≤ depth then some span else inner (depth + 1)

mutual

def ClassTree.tooDeep (depth : Nat) : ClassTree → Option Span
  | .bracketed s _ inner => enter depth s fun d => inner.tooDeep d
  | .union s items => enter depth s fun d => ClassTree.anyTooDeep d items
  | .operation s _ left right =>
    enter depth s fun d => (left.tooDeep d).orElse fun _ => right.tooDeep d
  | _ => none

def ClassTree.anyTooDeep (depth : Nat) : List ClassTree → Option Span
  | [] => none
  | t :: ts => (t.tooDeep depth).orElse fun _ => ClassTree.anyTooDeep depth ts

end

mutual

def Tree.tooDeep (depth : Nat) : Tree → Option Span
  | .bracketed s _ inner => enter depth s fun d => inner.tooDeep d
  | .repetition s _ _ inner | .group s _ inner => enter depth s fun d => inner.tooDeep d
  | .alternation s branches => enter depth s fun d => Tree.anyTooDeep d branches
  | .concat s parts => enter depth s fun d => Tree.anyTooDeep d parts
  | _ => none

def Tree.anyTooDeep (depth : Nat) : List Tree → Option Span
  | [] => none
  | t :: ts => (t.tooDeep depth).orElse fun _ => Tree.anyTooDeep depth ts

end

end SchemaSheet.Pattern
