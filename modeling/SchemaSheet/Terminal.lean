import SchemaSheet.Text.Utf8

/-! Text for terminals. Parts of it are styled by control sequences, and what is left of it without
them is its plain text: characters that are shown, and the blanks among the control characters.

A control sequence begins with an escape character. Some go on up to a letter, others are strings
that a terminator ends. A sequence may be broken off by a blank control character; it then goes on
at the next control character that is not blank. -/

namespace SchemaSheet.Terminal

/-- Where a character stands with respect to control sequences. -/
inductive Place where
  | outside
  | escape
  | escapeIntermediate
  /-- In a control sequence, which an escape character and a square bracket begin. -/
  | entry
  | parameters
  | intermediate
  | malformed
  /-- In a string for a device. -/
  | deviceEntry
  | deviceParameters
  | deviceIntermediate
  | deviceMalformed
  | deviceString
  /-- In a string for the system that runs the terminal, which a bell ends. -/
  | systemString
  /-- In a string that means nothing. -/
  | ignoredString
  deriving DecidableEq, Repr

namespace Place

def isIntermediate (c : Char) : Bool := '\x20' ≤ c && c ≤ '\x2F'

def isParameter (c : Char) : Bool := '\x30' ≤ c && c ≤ '\x3B'

def isPrivate (c : Char) : Bool := '\x3C' ≤ c && c ≤ '\x3F'

/-- The byte that ends strings. It ends them also within a character. -/
def terminator : UInt8 := 0x9C

def afterControl (p : Place) (c : Char) : Place :=
  if c = '\x1B' then escape
  else if c = '\x18' ∨ c = '\x1A' then outside
  else if p = systemString ∧ c = '\x07' then outside
  else p

def afterWide (p : Place) (c : Char) : Place :=
  if p = deviceMalformed ∨ p = deviceString ∨ p = ignoredString then
    if (Text.Utf8.encodeChar c).contains terminator then outside else p
  else p

def afterVisible (c : Char) : Place → Place
  | outside => outside
  | escape =>
    if isIntermediate c then escapeIntermediate
    else if c = '[' then entry
    else if c = ']' then systemString
    else if c = 'P' then deviceEntry
    else if c = 'X' ∨ c = '^' ∨ c = '_' then ignoredString
    else outside
  | escapeIntermediate => if isIntermediate c then escapeIntermediate else outside
  | entry =>
    if isIntermediate c then intermediate
    else if isParameter c || isPrivate c then parameters
    else outside
  | parameters =>
    if isIntermediate c then intermediate
    else if isParameter c then parameters
    else if isPrivate c then malformed
    else outside
  | intermediate =>
    if isIntermediate c then intermediate
    else if isParameter c || isPrivate c then malformed
    else outside
  | malformed => if c ≤ '\x3F' then malformed else outside
  | deviceEntry =>
    if isIntermediate c then deviceIntermediate
    else if isParameter c || isPrivate c then deviceParameters
    else deviceString
  | deviceParameters =>
    if isIntermediate c then deviceIntermediate
    else if isParameter c then deviceParameters
    else if isPrivate c then deviceMalformed
    else deviceString
  | deviceIntermediate =>
    if isIntermediate c then deviceIntermediate
    else if isParameter c || isPrivate c then deviceMalformed
    else deviceString
  | deviceMalformed => deviceMalformed
  | deviceString => deviceString
  | systemString => systemString
  | ignoredString => ignoredString

def isControl (c : Char) : Bool := c < '\x20' || c == '\x7F'

def next (p : Place) (c : Char) : Place :=
  if isControl c then p.afterControl c
  else if c.toNat < 0x80 then p.afterVisible c
  else p.afterWide c

def isBlankControl (c : Char) : Bool := c == '\t' || c == '\n' || c == '\x0C' || c == '\r'

/-- Whether the place is in a string, where control characters mean nothing. -/
def isString : Place → Bool
  | deviceEntry | deviceParameters | deviceIntermediate | deviceMalformed | deviceString
  | systemString | ignoredString => true
  | _ => false

/-- Whether a character shows in a place. -/
def shows (p : Place) (c : Char) : Bool :=
  if isControl c then isBlankControl c && !p.isString else p == outside

end Place

/-- What strips a text of control sequences, one character after the other. -/
structure Stripper where
  place : Place := .outside
  /-- Whether the last character was shown, even if it broke off a sequence. -/
  shown : Bool := false
  deriving DecidableEq, Repr

namespace Stripper

/-- The stripper behind a character. What was shown before goes on with what can be shown. -/
def next (s : Stripper) (c : Char) : Stripper :=
  if s.shown && Place.outside.shows c then
    { place := if c.toNat < 0x80 then s.place else .outside, shown := true }
  else { place := s.place.next c, shown := s.place.shows c }

def strip (s : Stripper) : Text → Text
  | [] => []
  | c :: cs => if (s.next c).shown then c :: (s.next c).strip cs else (s.next c).strip cs

end Stripper

/-- What is left of a text without control sequences and control characters. -/
def plain (t : Text) : Text := Stripper.strip {} t

inductive Style where
  | heading
  | fault
  | invalid
  | literal
  deriving DecidableEq, Repr

namespace Style

def start : Style → Text
  | heading => "\x1B[1m\x1B[4m".toList
  | fault => "\x1B[1m\x1B[31m".toList
  | invalid => "\x1B[33m".toList
  | literal => "\x1B[1m".toList

def reset : Text := "\x1B[0m".toList

def on (s : Style) (t : Text) : Text := s.start ++ t ++ reset

end Style

end SchemaSheet.Terminal
