import SchemaSheet.Command.Environment
import SchemaSheet.Text.Blank
import SchemaSheet.Text.Utf8
import SchemaSheet.Unicode.Property

/-! Files of settings, one `NAME=value` per line, for names that the environment has no value for.
Values may be quoted, may go on over several lines inside quotes, and may refer to earlier names.
The first line that cannot be read ends the file; the settings before it stand. -/

namespace SchemaSheet.EnvFile

open Text

/-- Where a line stands with respect to quotes, escapes and blanks. -/
inductive Stance where
  | plain | blank | escape | strong | strongEscape | weak | weakEscape
  deriving DecidableEq, Repr

namespace Stance

def opening (c : Char) : Stance :=
  if c = '\\' then escape else if c = '"' then weak else if c = '\'' then strong else plain

def next : Stance → Char → Stance
  | plain, c => if isBlank c && c != '\n' && c != '\r' then blank else opening c
  | blank, c => opening c
  | escape, _ => plain
  | strong, c => if c = '\\' then strongEscape else if c = '\'' then plain else strong
  | strongEscape, _ => strong
  | weak, c => if c = '\\' then weakEscape else if c = '"' then plain else weak
  | weakEscape, _ => weak

end Stance

inductive LineEnd where
  | stance (s : Stance)
  /-- With a comment, behind so much of the line. -/
  | comment (before : Text)
  deriving DecidableEq, Repr

def LineEnd.behind (c : Char) : LineEnd → LineEnd
  | .stance s => .stance s
  | .comment before => .comment (c :: before)

/-- How a line ends that is entered in a stance. A number sign right behind a single blank starts a
comment. -/
def lineEnd (s : Stance) : Text → LineEnd
  | [] => .stance s
  | c :: cs =>
    if s = .blank ∧ c = '#' then .comment [] else (lineEnd (s.next c) cs).behind c

def chopped (line : Text) : Text :=
  match line.reverse with
  | '\n' :: '\r' :: r => r.reverse
  | '\n' :: r => r.reverse
  | _ => line

/-- The entries of a file from its lines, breaks included; an entry takes several lines if quotes
or an escape are open at the end of one. `held` is the beginning of the current entry, from the
lines before. Lines and entries that cannot be read are `none`. -/
def entriesFrom (held : Text) (s : Stance) : List (Option Text) → List (Option Text)
  | [] => if s = .plain then [] else [none]
  | none :: _ => [none]
  | some line :: rest =>
    let all := held ++ line
    if (trimStart all).head? = some '#' then some [] :: entriesFrom [] .plain rest
    else match lineEnd s line with
      | .comment before => some (held ++ before) :: entriesFrom [] .plain rest
      | .stance .plain => some (chopped all) :: entriesFrom [] .plain rest
      | .stance s' => entriesFrom all s' rest

def isKeyStart (c : Char) : Bool := c.isAlpha || c == '_'
def isKeyChar (c : Char) : Bool := c.isAlphanum || c == '_' || c == '.'

/-- The name at the start of a text and what follows it and blanks. -/
def key? (t : Text) : Option (Text × Text) :=
  if t.head?.any isKeyStart then some (t.takeWhile isKeyChar, trimStart (t.dropWhile isKeyChar))
  else none

def isNameChar (c : Char) : Bool :=
  if c.toNat < 0x80 then c.isAlphanum else Unicode.alphanumeric.has c.toNat

inductive Mode where
  | plain
  | escape
  | strong
  /-- A name behind a dollar sign, as far as it was read. -/
  | name (sofar : Text)
  /-- A name in braces behind a dollar sign, as far as it was read. -/
  | braced (sofar : Text)
  /-- After a blank outside quotes, behind which only a comment may come. -/
  | ending
  | comment
  deriving DecidableEq, Repr

structure ValueReader where
  mode : Mode := .plain
  /-- Whether double quotes are open. -/
  quoted : Bool := false
  output : Text := []
  deriving DecidableEq, Repr

namespace ValueReader

def emit (r : ValueReader) (t : Text) : ValueReader := { r with output := r.output ++ t }

def turn (r : ValueReader) (m : Mode) : ValueReader := { r with mode := m }

/-- The value of a name; a name without one stands for nothing. -/
def resolve (r : ValueReader) (env : Environment) (name : Text) : ValueReader :=
  r.emit ((env.value? name).getD [])

def takePlain (r : ValueReader) (c : Char) : ValueReader :=
  if c = '$' then r.turn (.name [])
  else if c = '"' then { r with quoted := !r.quoted }
  else if c = '\\' then r.turn .escape
  else if r.quoted then r.emit [c]
  else if c = '\'' then r.turn .strong
  else if c = ' ' ∨ c = '\t' then r.turn .ending
  else r.emit [c]

/-- A character after a name that a value refers to; it stands for itself, except that a brace may
open and a dollar sign starts another name. -/
def takeAfterName (r : ValueReader) (env : Environment) (name : Text) (c : Char) : ValueReader :=
  if c = '\x7b' ∧ name = [] then r.turn (.braced [])
  else if c = '$' then (r.resolve env name).turn (.name [])
  else ((r.resolve env name).turn .plain).emit [c]

/-- Takes a character of a value, if it may stand there. -/
def take? (env : Environment) (r : ValueReader) (c : Char) : Option ValueReader :=
  match r.mode with
  | .comment => some r
  | .ending =>
    if c = ' ' ∨ c = '\t' then some r else if c = '#' then some (r.turn .comment) else none
  | .escape =>
    if ['\\', '\'', '"', '$', ' '].contains c then some ((r.turn .plain).emit [c])
    else if c = 'n' then some ((r.turn .plain).emit ['\n'])
    else none
  | .strong => some (if c = '\'' then r.turn .plain else r.emit [c])
  | .name sofar =>
    some (if isNameChar c then r.turn (.name (sofar ++ [c])) else r.takeAfterName env sofar c)
  | .braced sofar =>
    some (if c = '\x7d' then (r.resolve env sofar).turn .plain
      else r.turn (.braced (sofar ++ [c])))
  | .plain => some (r.takePlain c)

def value? (env : Environment) (r : ValueReader) : Option Text :=
  if r.quoted then none
  else match r.mode with
    | .strong | .braced _ => none
    | .name sofar => some (r.resolve env sofar).output
    | _ => some r.output

end ValueReader

def value? (env : Environment) (t : Text) : Option Text := do
  (← t.foldlM (ValueReader.take? env) {}).value? env

structure Setting where
  name : Text
  value : Text
  deriving DecidableEq, Repr

def afterEquals? (t : Text) : Option Text := (after? ['='] t).map trimStart

/-- The name that a setting begins with and what follows its equals sign. The word `export` may
stand before the name. -/
def named? (t : Text) : Option (Text × Text) := do
  let (first, rest) ← key? t
  match afterEquals? rest with
  | some r => some (first, r)
  | none =>
    if first = "export".toList then
      (key? rest).bind fun (name, r) => (afterEquals? r).map (Prod.mk name)
    else none

def isVoid (t : Text) : Bool := t.isEmpty || t.head? == some '#'

/-- The setting in an entry, or `none` if there is none; the whole is `none` if the entry cannot be
read. -/
def setting? (env : Environment) (entry : Text) : Option (Option Setting) :=
  let t := trimStart (trimEnd entry)
  if isVoid t then some none
  else match named? t with
    | none => none
    | some (name, rest) =>
      if isVoid rest then some (some ⟨name, []⟩)
      else (value? env rest).map fun v => some ⟨name, v⟩

def apply (env : Environment) : List (Option Text) → Environment
  | some entry :: rest =>
    match setting? env entry with
    | some (some s) => apply (env.extended s.name s.value) rest
    | some none => apply env rest
    | none => env
  | _ => env

def withBreaks : List (List UInt8) → List (List UInt8)
  | [] => []
  | [last] => if last.isEmpty then [] else [last]
  | line :: rest => (line ++ [0x0A]) :: withBreaks rest

/-- The bytes behind a byte order mark, if there is one. -/
def afterMark (bytes : List UInt8) : List UInt8 :=
  let mark := Utf8.encodeChar '\uFEFF'
  if mark.isPrefixOf bytes then bytes.drop mark.length else bytes

/-- The lines of a file, `none` for those that are no text. -/
def linesOf (bytes : List UInt8) : List (Option Text) :=
  (withBreaks (pieces 0x0A (afterMark bytes))).map Utf8.text?

def fileName : Text := ".env".toList

def load (env : Environment) : Option (List UInt8) → Environment
  | some bytes => apply env (entriesFrom [] .plain (linesOf bytes))
  | none => env

end SchemaSheet.EnvFile
