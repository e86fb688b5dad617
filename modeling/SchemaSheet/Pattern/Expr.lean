import SchemaSheet.Text.Utf8
import SchemaSheet.Text.Word
import SchemaSheet.Unicode.CharSet

/-! What patterns mean: expressions that match parts of a text. An expression takes places in a text
to the places behind the parts that match from there, and a text has a match if some place is
reached from any. -/

namespace SchemaSheet.Pattern

inductive Boundary where
  | either
  | neither
  | start
  | stop
  | startHalf
  | stopHalf
  deriving DecidableEq, Repr

inductive Look where
  | textStart
  | textEnd
  | lineStart
  | lineEnd
  /-- Of lines that a carriage return ends, a line feed, or both together. -/
  | crlfStart
  | crlfEnd
  /-- Of words, which have ASCII characters only or any. -/
  | word (b : Boundary) (ascii : Bool)
  deriving DecidableEq, Repr

inductive Expr where
  | nothing
  | chars (s : CharSet)
  | look (l : Look)
  | seq (a b : Expr)
  | alt (a b : Expr)
  | many (least : Nat) (most : Option Nat) (a : Expr)
  deriving DecidableEq, Repr

/-- A place in a text: the characters before and behind it. -/
structure Gap where
  before : Option Char
  behind : Option Char
  deriving DecidableEq, Repr

namespace Gap

def allFrom (before : Option Char) : Text → List Gap
  | [] => [⟨before, none⟩]
  | c :: cs => ⟨before, some c⟩ :: allFrom (some c) cs

def isWordAt (ascii : Bool) (c : Option Char) : Bool :=
  c.any fun c => Text.isWord c && (!ascii || c.toNat < 0x80)

end Gap

def Boundary.holds (b : Boundary) (before behind : Bool) : Bool :=
  match b with
  | either => before != behind
  | neither => before == behind
  | start => !before && behind
  | stop => before && !behind
  | startHalf => !before
  | stopHalf => !behind

def Look.holds (l : Look) (g : Gap) : Bool :=
  match l with
  | textStart => g.before.isNone
  | textEnd => g.behind.isNone
  | lineStart => g.before.all (· == '\n')
  | lineEnd => g.behind.all (· == '\n')
  | crlfStart =>
    g.before.all (· == '\n') || g.before == some '\r' && g.behind != some '\n'
  | crlfEnd =>
    g.behind.all (· == '\r') || g.behind == some '\n' && g.before != some '\r'
  | word b ascii => b.holds (Gap.isWordAt ascii g.before) (Gap.isWordAt ascii g.behind)

/-- The places of a text that are marked. -/
abbrev Marks := List Bool

namespace Marks

def or (a b : Marks) : Marks := List.zipWith (· || ·) a b

def without (a b : Marks) : Marks := List.zipWith (fun x y => x && !y) a b

/-- What `f` makes of the marks `n` times over. -/
def times (f : Marks → Marks) : Nat → Marks → Marks
  | 0, m => m
  | n + 1, m =>
    let m' := f m
    if m' = m then m else times f n m'

/-- What `f` makes of the new marks at most `n` times over, and all marks on the way. -/
def upTo (f : Marks → Marks) : Nat → Marks → Marks → Marks
  | 0, all, _ => all
  | n + 1, all, new =>
    let new' := (f new).without all
    if new'.any id then upTo f n (all.or new') new' else all

end Marks

namespace Expr

/-- The places that are reached from the marked places of a text. -/
def reach (t : Text) (gaps : List Gap) : Expr → Marks → Marks
  | nothing, m => m
  | chars s, m => false :: List.zipWith (fun x (c : Char) => x && s.has c.toNat) m t
  | look l, m => List.zipWith (fun x g => x && l.holds g) m gaps
  | seq a b, m => reach t gaps b (reach t gaps a m)
  | alt a b, m => (reach t gaps a m).or (reach t gaps b m)
  | many least most a, m =>
    let start := Marks.times (reach t gaps a) least m
    Marks.upTo (reach t gaps a) ((most.map (· - least)).getD (t.length + 1)) start start

/-- Whether some part of a text matches. -/
def isMatch (e : Expr) (t : Text) : Bool :=
  let gaps := Gap.allFrom none t
  (e.reach t gaps (gaps.map fun _ => true)).any id

def ofParts : List Expr → Expr
  | [] => nothing
  | [e] => e
  | e :: es => seq e (ofParts es)

def ofBranches : List Expr → Expr
  | [] => nothing
  | [e] => e
  | e :: es => alt e (ofBranches es)

/-- How much room a matcher of a set takes, roughly, in bytes: some for each byte of a character
that stands alone, and else for each range. -/
def setSize (s : CharSet) : Nat :=
  match s with
  | .ranges [⟨first, last, _⟩] =>
    if first = last then 32 * Text.Utf8.width (Char.ofNat first)
    else if last < 0x80 then 72 else 128
  | s => if s.top < 0x80 then 64 + 8 * s.parts else 64 + 62 * s.parts

/-- How much room a matcher of the expression takes: that of its parts, as many times as they may be
repeated. -/
def size : Expr → Nat
  | nothing => 32
  | chars s => setSize s
  | look _ => 32
  | seq a b => a.size + b.size
  | alt a b => a.size + b.size + 40
  | many least none a => max least 1 * a.size + 40
  | many least (some most) a => least * a.size + (most - least) * (a.size + 40)

def maxSize : Nat := 10 * Nat.pow 2 20

end Expr

end SchemaSheet.Pattern
