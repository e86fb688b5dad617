import SchemaSheet.Text.Basic

/-! Numerals in bases up to sixteen, and the characters that hexadecimal ones name. -/

namespace SchemaSheet.Text

def digit? (base : Nat) (c : Char) : Option Nat :=
  let n :=
    if '0' ≤ c ∧ c ≤ '9' then c.toNat - '0'.toNat
    else if 'a' ≤ c ∧ c ≤ 'f' then c.toNat - 'a'.toNat + 10
    else if 'A' ≤ c ∧ c ≤ 'F' then c.toNat - 'A'.toNat + 10
    else 16
  if n < base then some n else none

def isHexDigit (c : Char) : Bool := (digit? 16 c).isSome

/-- The number that a run of digits spells; `start` stands for the digits before. -/
def numeral? (base : Nat) (start : Nat) : Text → Option Nat
  | [] => some start
  | c :: cs => do numeral? base (start * base + (← digit? base c)) cs

def hexChar? (digits : Text) : Option Char := do
  let n ← numeral? 16 0 digits
  if n.isValidChar then some (Char.ofNat n) else none

end SchemaSheet.Text
