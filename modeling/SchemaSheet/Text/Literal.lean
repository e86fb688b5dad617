import SchemaSheet.Text.Basic

/-! String literals in a text: a quote opens and closes one, and inside of it a backslash takes the
next character along. -/

namespace SchemaSheet

/-- Where a scan stands with respect to string literals. -/
inductive Literal where
  | outside
  | inside
  /-- Inside, right after a backslash. -/
  | escaped
  deriving DecidableEq, Repr

namespace Literal

def next : Literal → Char → Literal
  | outside, c => if c = '"' then inside else outside
  | inside, c => if c = '\\' then escaped else if c = '"' then outside else inside
  | escaped, _ => inside

def after (l : Literal) (t : Text) : Literal := t.foldl next l

/-- What a byte of UTF-8 does to the state: a quote is `0x22`, a backslash `0x5C`. -/
def nextByte : Literal → UInt8 → Literal
  | outside, b => if b = 0x22 then inside else outside
  | inside, b => if b = 0x5C then escaped else if b = 0x22 then outside else inside
  | escaped, _ => inside

@[simp] theorem after_nil (l : Literal) : l.after [] = l := rfl

@[simp] theorem after_cons (l : Literal) (c : Char) (t : Text) :
    l.after (c :: t) = (l.next c).after t := rfl

@[simp] theorem after_append (l : Literal) (s t : Text) : l.after (s ++ t) = (l.after s).after t :=
  List.foldl_append

end Literal

end SchemaSheet
