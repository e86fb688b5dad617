import SchemaSheet.Text.Basic

/-! UTF-8. `decode` reads bytes as characters and keeps a hole for every byte that belongs to no
character, so that a text is well formed exactly when it has no hole. -/

namespace SchemaSheet.Text.Utf8

/-- How many bytes a character takes. -/
def width (c : Char) : Nat :=
  if c.toNat < 0x80 then 1 else if c.toNat < 0x800 then 2 else if c.toNat < 0x10000 then 3 else 4

def size (t : Text) : Nat := t.foldl (fun n c => n + width c) 0

def encodeChar (c : Char) : List UInt8 :=
  let n := c.toNat
  let tail (k : Nat) := (0x80 + n / Nat.pow 64 k % 64).toUInt8
  match width c with
  | 1 => [n.toUInt8]
  | 2 => [(0xC0 + n / 64).toUInt8, tail 0]
  | 3 => [(0xE0 + n / Nat.pow 64 2).toUInt8, tail 1, tail 0]
  | _ => [(0xF0 + n / Nat.pow 64 3).toUInt8, tail 2, tail 1, tail 0]

def encode (t : Text) : List UInt8 := t.flatMap encodeChar

/-- The value of a continuation byte. -/
def tail? (b : UInt8) : Option Nat :=
  if 0x80 ≤ b.toNat && b.toNat < 0xC0 then some (b.toNat - 0x80) else none

/-- The character with the code point `n`, if it needs more than `least` and is one. -/
def scalar? (least n : Nat) : Option Char :=
  if least ≤ n ∧ n.isValidChar then some (Char.ofNat n) else none

/-- The character that the bytes begin with, and how many bytes it takes. -/
def first? : List UInt8 → Option (Char × Nat)
  | [] => none
  | a :: r =>
    let lead := a.toNat
    if lead < 0x80 then some (Char.ofNat lead, 1)
    else if 0xC0 ≤ lead ∧ lead < 0xE0 then do
      let b ← r[0]? >>= tail?
      let c ← scalar? 0x80 ((lead - 0xC0) * 64 + b)
      return (c, 2)
    else if 0xE0 ≤ lead ∧ lead < 0xF0 then do
      let b ← r[0]? >>= tail?
      let c ← r[1]? >>= tail?
      let d ← scalar? 0x800 (((lead - 0xE0) * 64 + b) * 64 + c)
      return (d, 3)
    else if 0xF0 ≤ lead ∧ lead < 0xF8 then do
      let b ← r[0]? >>= tail?
      let c ← r[1]? >>= tail?
      let d ← r[2]? >>= tail?
      let e ← scalar? 0x10000 ((((lead - 0xF0) * 64 + b) * 64 + c) * 64 + d)
      return (e, 4)
    else none

/-- The characters that bytes spell behind so many bytes of a character before them. -/
def decodeBehind : Nat → List UInt8 → List (Option Char)
  | _, [] => []
  | left + 1, _ :: r => decodeBehind left r
  | 0, a :: r =>
    match first? (a :: r) with
    | some (c, n) => some c :: decodeBehind (n - 1) r
    | none => none :: decodeBehind 0 r

/-- The characters that the bytes spell, with `none` for each byte that belongs to none. -/
def decode (bytes : List UInt8) : List (Option Char) := decodeBehind 0 bytes

theorem decodeBehind_eq (left : Nat) (bytes : List UInt8) :
    decodeBehind left bytes = decode (bytes.drop left) := by
  induction bytes generalizing left with
  | nil => cases left <;> rfl
  | cons a r ih =>
    cases left with
    | zero => rfl
    | succ left => exact ih left

@[simp] theorem decode_nil : decode [] = [] := rfl

theorem decode_cons (a : UInt8) (r : List UInt8) :
    decode (a :: r) =
      match first? (a :: r) with
      | some (c, n) => some c :: decode (r.drop (n - 1))
      | none => none :: decode r := by
  unfold decode
  rw [decodeBehind]
  cases first? (a :: r) with
  | none => rfl
  | some found => exact congrArg (some found.1 :: ·) (decodeBehind_eq (found.2 - 1) r)

/-- The text that well formed bytes spell. -/
def text? (bytes : List UInt8) : Option Text := (decode bytes).mapM id

/-- The text that bytes spell, with a replacement character for each ill formed byte. -/
def lossy (bytes : List UInt8) : Text := (decode bytes).map (·.getD '\uFFFD')

/-- Whether bytes can be cut at an offset: it is their end, or the byte there continues no
character. -/
def isBoundary (bytes : List UInt8) (n : Nat) : Bool :=
  match bytes[n]? with
  | some b => (tail? b).isNone
  | none => n == bytes.length

def slice? (bytes : List UInt8) (n : Nat) : Option (List UInt8) :=
  if isBoundary bytes n = true then some (bytes.drop n) else none

end SchemaSheet.Text.Utf8
