import SchemaSheet.Text.Numeral

/-! Which plain YAML scalars are numbers: integers of 128 bits in four bases, decimal fractions
whose value is finite in double precision, infinities and not-a-number. -/

namespace SchemaSheet.Yaml

open Text

/-- The size of an integer: digits, after `0x`, `0o` or `0b` of another base than ten. -/
def magnitude? (t : Text) : Option Nat :=
  let (base, digits) := match t with
    | '0' :: 'x' :: ds => (16, ds)
    | '0' :: 'o' :: ds => (8, ds)
    | '0' :: 'b' :: ds => (2, ds)
    | ds => (10, ds)
  if digits.isEmpty then none else numeral? base 0 digits

/-- An integer with at most one sign that fits 128 bits, unsigned or signed. -/
def isInteger : Text → Bool
  | '-' :: t => (magnitude? t).any (· ≤ Nat.pow 2 127)
  | '+' :: t => (magnitude? t).any (· < Nat.pow 2 128)
  | t => (magnitude? t).any (· < Nat.pow 2 128)

/-- At most one sign and several digits, the first of them zero. -/
def isPadded (t : Text) : Bool :=
  let digits := match t with
    | '-' :: ds => ds
    | '+' :: ds => ds
    | ds => ds
  match digits with
  | '0' :: d :: ds => (d :: ds).all Char.isDigit
  | _ => false

/-- The exponent at the end of a decimal fraction; zero if there is none. -/
def exponent? : Text → Option Int
  | [] => some 0
  | e :: t =>
    if e = 'e' ∨ e = 'E' then
      match t with
      | '-' :: d :: ds => (numeral? 10 0 (d :: ds)).map fun n => -(n : Int)
      | '+' :: d :: ds => (numeral? 10 0 (d :: ds)).map Int.ofNat
      | d :: ds => (numeral? 10 0 (d :: ds)).map Int.ofNat
      | [] => none
    else none

/-- The least number that rounds to infinity in double precision. -/
def overflow : Nat := Nat.pow 2 1024 - Nat.pow 2 970

/-- Whether `m * 10 ^ e` is finite in double precision. The number of digits decides all but the
closest cases. -/
def isFinite (m : Nat) (e : Int) : Bool :=
  let size : Int := (Nat.toDigits 10 m).length + e
  m == 0 || size ≤ 308 ||
    (size ≤ 309 &&
      if 0 ≤ e then m * Nat.pow 10 e.toNat < overflow else m < overflow * Nat.pow 10 (-e).toNat)

/-- Digits with or without a point, at least one, and perhaps an exponent; the value is finite. -/
def isDecimal (t : Text) : Bool :=
  let whole := t.takeWhile Char.isDigit
  let rest := t.dropWhile Char.isDigit
  let (fraction, rest) := match rest with
    | '.' :: r => (r.takeWhile Char.isDigit, r.dropWhile Char.isDigit)
    | r => ([], r)
  match numeral? 10 0 (whole ++ fraction), exponent? rest with
  | some m, some e => !(whole ++ fraction).isEmpty && isFinite m (e - fraction.length)
  | _, _ => false

def isInfinity (t : Text) : Bool :=
  ([".inf", ".Inf", ".INF"].map String.toList).contains t

def isNotANumber (t : Text) : Bool :=
  ([".nan", ".NaN", ".NAN"].map String.toList).contains t

def isFraction : Text → Bool
  | '-' :: t => isDecimal t || isInfinity t
  | '+' :: t => isDecimal t || isInfinity t
  | t => isDecimal t || isInfinity t || isNotANumber t

/-- Texts that would be read back as something other than a text. -/
def isForeign (t : Text) : Bool :=
  ((["null", "Null", "NULL", "~", "true", "True", "TRUE", "false", "False", "FALSE"].map
    String.toList).contains t) ||
  isInteger t || isPadded t || isFraction t

end SchemaSheet.Yaml
