import SchemaSheet.Pattern.Span

/-! What can be wrong with a pattern, and the report about it: the pattern with marks under the
place in question, and the cause. -/

namespace SchemaSheet.Pattern

/-- How deep groups, repetitions and character classes may be nested. -/
def nestingLimit : Nat := 250

inductive Cause where
  | classEscapeInvalid
  | classRangeInvalid
  | classRangeLiteral
  | classUnclosed
  | decimalEmpty
  | decimalInvalid
  | hexEmpty
  | hexInvalid
  | hexDigitInvalid
  | escapeUnfinished
  | escapeUnrecognized
  | flagNegationDangling
  | flagDuplicate
  | flagNegationRepeated
  | flagUnfinished
  | flagUnrecognized
  | groupNameDuplicate
  | groupNameEmpty
  | groupNameInvalid
  | groupNameUnfinished
  | groupUnclosed
  | groupUnopened
  | nestingExceeded
  | countInvalid
  | countUnclosed
  | repetitionMissing
  | wordBoundaryUnclosed
  | wordBoundaryUnrecognized
  | wordBoundaryUnfinished
  | propertyClassInvalid
  | backreference
  | lookAround
  | unicodeNotAllowed
  | invalidUtf8
  | propertyNotFound
  | propertyValueNotFound
  deriving DecidableEq, Repr

namespace Cause

def text : Cause → String
  | classEscapeInvalid => "invalid escape sequence found in character class"
  | classRangeInvalid => "invalid character class range, the start must be <= the end"
  | classRangeLiteral => "invalid range boundary, must be a literal"
  | classUnclosed => "unclosed character class"
  | decimalEmpty => "repetition quantifier expects a valid decimal"
  | decimalInvalid => "decimal literal invalid"
  | hexEmpty => "hexadecimal literal empty"
  | hexInvalid => "hexadecimal literal is not a Unicode scalar value"
  | hexDigitInvalid => "invalid hexadecimal digit"
  | escapeUnfinished => "incomplete escape sequence, reached end of pattern prematurely"
  | escapeUnrecognized => "unrecognized escape sequence"
  | flagNegationDangling => "dangling flag negation operator"
  | flagDuplicate => "duplicate flag"
  | flagNegationRepeated => "flag negation operator repeated"
  | flagUnfinished => "expected flag but got end of regex"
  | flagUnrecognized => "unrecognized flag"
  | groupNameDuplicate => "duplicate capture group name"
  | groupNameEmpty => "empty capture group name"
  | groupNameInvalid => "invalid capture group character"
  | groupNameUnfinished => "unclosed capture group name"
  | groupUnclosed => "unclosed group"
  | groupUnopened => "unopened group"
  | nestingExceeded => "exceed the maximum number of nested parentheses/brackets (250)"
  | countInvalid => "invalid repetition count range, the start must be <= the end"
  | countUnclosed => "unclosed counted repetition"
  | repetitionMissing => "repetition operator missing expression"
  | wordBoundaryUnclosed =>
    "special word boundary assertion is either unclosed or contains an invalid character"
  | wordBoundaryUnrecognized =>
    "unrecognized special word boundary assertion, valid choices are: " ++
      "start, end, start-half or end-half"
  | wordBoundaryUnfinished =>
    "found either the beginning of a special word boundary or a bounded repetition " ++
      "on a \\b with an opening brace, but no closing brace"
  | propertyClassInvalid => "invalid Unicode character class"
  | backreference => "backreferences are not supported"
  | lookAround => "look-around, including look-ahead and look-behind, is not supported"
  | unicodeNotAllowed => "Unicode not allowed here"
  | invalidUtf8 => "pattern can match invalid UTF-8"
  | propertyNotFound => "Unicode property not found"
  | propertyValueNotFound => "Unicode property value not found"

end Cause

structure Fault where
  span : Span
  cause : Cause
  /-- What the span repeats, if repeating is what is wrong. -/
  repeated : Option Span := none
  deriving DecidableEq, Repr

namespace Fault

def message (f : Fault) : Text := f.cause.text.toList

def spans (f : Fault) : List Span :=
  match f.repeated with
  | none => [f.span]
  | some s => if s.isBefore f.span then [s, f.span] else [f.span, s]

def blanks (n : Nat) : Text := List.replicate n ' '

def marksFrom (column : Nat) : List Span → Text
  | [] => []
  | s :: ss =>
    blanks (s.start.column - 1 - column) ++ List.replicate s.width '^' ++
      marksFrom (max column (s.start.column - 1) + s.width) ss

/-- How wide line numbers are; there are none for a pattern of one line. A line break at the end
starts another line. -/
def numberWidth (pattern : Text) : Nat :=
  let count := (Text.endedLines pattern).length + if pattern.getLast? = some '\n' then 1 else 0
  if count ≤ 1 then 0 else (Text.ofNat count).length

def numbered (width number : Nat) (line : Text) : Text :=
  if width = 0 then blanks 4 ++ line
  else
    let digits := Text.ofNat number
    blanks (width - digits.length) ++ digits ++ ": ".toList ++ line

def marked (pattern : Text) (f : Fault) : List Text :=
  let width := numberWidth pattern
  (Text.endedLines pattern).zipIdx.flatMap fun (line, k) =>
    let here := f.spans.filter fun s => s.isOneLine && s.start.line == k + 1
    let marks := blanks (if width = 0 then 4 else width + 2) ++ marksFrom 0 here
    numbered width (k + 1) line :: if here.isEmpty then [] else [marks]

def extent (s : Span) : Text :=
  "on line ".toList ++ Text.ofNat s.start.line ++ " (column ".toList ++
    Text.ofNat s.start.column ++ ") through line ".toList ++ Text.ofNat s.stop.line ++
    " (column ".toList ++ Text.ofNat (s.stop.column - 1) ++ [')']

def report (pattern : Text) (f : Fault) : Text :=
  let rule := if pattern.contains '\n' then [List.replicate 79 '~'] else []
  let extents := if pattern.contains '\n' then (f.spans.filter (!·.isOneLine)).map extent else []
  Text.joined ['\n'] (["regex parse error:".toList] ++ rule ++ f.marked pattern ++ rule ++
    extents ++ ["error: ".toList ++ f.message])

end Fault

end SchemaSheet.Pattern
