import SchemaSheet.Unicode.Casing

/-! Sets of characters, as they are put together from ranges of code points, and the sets that go by
names. -/

namespace SchemaSheet

open Unicode

inductive CharSet where
  | ranges (rs : List CodeRange)
  | union (a b : CharSet)
  | inter (a b : CharSet)
  | diff (a b : CharSet)
  | compl (a : CharSet)
  /-- All forms of the characters of a set. -/
  | anyCase (a : CharSet)
  /-- All forms of the characters of a set among the ASCII letters. -/
  | anyAsciiCase (a : CharSet)
  deriving DecidableEq, Repr

namespace CharSet

def otherAscii (n : Nat) : Nat :=
  if 0x41 ≤ n ∧ n ≤ 0x5A then n + 0x20 else if 0x61 ≤ n ∧ n ≤ 0x7A then n - 0x20 else n

def has : CharSet → Nat → Bool
  | ranges rs, n => rs.any (·.has n)
  | union a b, n => a.has n || b.has n
  | inter a b, n => a.has n && b.has n
  | diff a b, n => a.has n && !b.has n
  | compl a, n => !a.has n
  | anyCase a, n => a.has n || (caseForms n).any a.has
  | anyAsciiCase a, n => a.has n || a.has (otherAscii n)

/-- How many ranges the set is made of. What a set leaves out takes some more, up to the ends of the
code points of each width. -/
def parts : CharSet → Nat
  | ranges rs => rs.length
  | union a b | inter a b | diff a b => a.parts + b.parts
  | compl a => a.parts + 14
  | anyCase a | anyAsciiCase a => 2 * a.parts

/-- A bound on the code points of the set, other forms of ASCII letters left aside. -/
def top : CharSet → Nat
  | ranges rs => rs.foldl (fun n r => max n r.last) 0
  | union a b => max a.top b.top
  | inter a b => min a.top b.top
  | diff a _ => a.top
  | compl _ => 0x10FFFF
  | anyCase a | anyAsciiCase a => a.top

def empty : CharSet := ranges []

def range (first last : Nat) : CharSet := ranges [⟨first, last, 1⟩]

def all : CharSet := range 0 0x10FFFF

def single (c : Char) : CharSet := range c.toNat c.toNat

def ofTable (table : String) : CharSet := ranges (CodeRange.read table)

def ofTables (tables : List String) : CharSet := ranges (tables.flatMap CodeRange.read)

def symmDiff (a b : CharSet) : CharSet := union (diff a b) (diff b a)

def isAsciiOnly (s : CharSet) : Bool := (List.range 0x80).all fun k => !s.has (0x80 + k)

end CharSet

namespace Unicode

/-- A table with the names it goes by; the names are in lower case without blanks and dashes. -/
structure Listing where
  names : List String
  table : String
  deriving DecidableEq, Repr

namespace Listing

def isNamed (l : Listing) (name : Text) : Bool := l.names.any (·.toList = name)

def find? (ls : List Listing) (name : Text) : Option CharSet :=
  (List.find? (·.isNamed name) ls).map fun l => .ofTable l.table

end Listing

def named? (sets : List (List String × CharSet)) (name : Text) : Option CharSet :=
  (sets.find? fun (names, _) => names.any (·.toList = name)).map (·.2)

end Unicode

end SchemaSheet
