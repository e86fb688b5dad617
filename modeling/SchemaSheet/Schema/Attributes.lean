import SchemaSheet.Schema.Table
import SchemaSheet.Text.Blank
import SchemaSheet.Text.Literal
import SchemaSheet.Text.Utf8
import SchemaSheet.Text.Word

/-! The attributes of a column, read off the text behind its type. Markers and the default are
looked for in the whole text, string literals and the comment included; the comment starts at the
first `//` outside a string literal, which is looked for byte by byte. -/

namespace SchemaSheet

namespace Attributes

open Text Utf8

/-- Whether the marker occurs, not continued to a longer word. -/
def marked (marker : Text) : Text → Bool
  | [] => false
  | c :: cs => ((after? marker (c :: cs)).any atWordEnd) || marked marker cs

/-- What follows `@default(` in a text that begins with it; blanks may precede the parenthesis. -/
def opened? (t : Text) : Option Text := do
  let rest ← after? "@default".toList t
  after? ['('] (trimStart rest)

/-- What follows the leftmost `@default(`. -/
def default? : Text → Option Text
  | [] => none
  | c :: cs => opened? (c :: cs) <|> default? cs

/-- The text up to the parenthesis that closes it, `depth` more of them being open. -/
def enclosed? : Literal → Nat → Text → Option Text
  | _, _, [] => none
  | .outside, depth, c :: cs =>
    if c = ')' then
      match depth with
      | 0 => some []
      | d + 1 => (enclosed? .outside d cs).map (c :: ·)
    else if c = '(' then (enclosed? .outside (depth + 1) cs).map (c :: ·)
    else (enclosed? (Literal.outside.next c) depth cs).map (c :: ·)
  | l, depth, c :: cs => (enclosed? (l.next c) depth cs).map (c :: ·)

/-- The argument of a default whose opening parenthesis `body` follows: all of it if that
parenthesis is never closed. -/
def argument (body : Text) : Text := (enclosed? .outside 0 body).getD (trimEnd body)

/-- The offset behind the first double slash outside a literal, `i` bytes having been passed. -/
def commentOffset? : Literal → Nat → List UInt8 → Option Nat
  | _, _, [] => none
  | l, i, b :: bs =>
    if l = .outside ∧ b = 0x2F ∧ bs.head? = some 0x2F then some (i + 2)
    else commentOffset? (l.nextByte b) (i + 1) bs

/-- What follows the first double slash outside a literal, in bytes; nothing within if they cannot
be cut there. -/
def trailing? (bytes : List UInt8) : Option (Option (List UInt8)) :=
  (commentOffset? .outside 0 bytes).map (slice? bytes)

def trailingComment? (t : Text) : Option Text := (trailing? (encode t)).join.bind text?

/-- A comment without the slashes it may go on with and without outer blanks. -/
def tidy (comment : Text) : Text := trim (comment.dropWhile (· == '/'))

def ofText (t : Text) : Attributes where
  primaryKey := marked "@id".toList t
  unique := marked "@unique".toList t
  defaultValue := ((default? t).map argument).getD []
  comment := ((trailingComment? t).map tidy).getD []

end Attributes

end SchemaSheet
