import Mathlib.Data.List.Forall2
import SchemaSheet.Text.Blank
import SchemaSheet.Text.Word
import SchemaSheet.Unicode.Property

/-! The two classes of characters that lines are cut by, against the tables of Unicode. Blanks have
the property White_Space; word characters are the alphabetic characters, the marks, the decimal
digits, the connectors and the two join controls. The tables share no ranges with those of the
class, so both sides are taken as the bits of one number, one bit for each code point. -/

namespace SchemaSheet

theorem testBit_foldl_or {α : Type} (f : α → Nat) (xs : List α) (b n : Nat) :
    (xs.foldl (fun b x => b ||| f x) b).testBit n =
      (b.testBit n || xs.any fun x => (f x).testBit n) := by
  induction xs generalizing b with
  | nil => simp
  | cons x xs ih => rw [List.foldl_cons, ih, Nat.testBit_or, List.any_cons, Bool.or_assoc]

namespace CodeRange

/-- The code points of a range as the bits of a number; a range without gaps is taken at once. -/
def bits (r : CodeRange) : Nat :=
  if r.step = 1 then ((1 <<< (r.last + 1 - r.first)) - 1) <<< r.first
  else ((List.range' r.first (r.last + 1 - r.first)).filter r.has).foldl
    (fun b n => b ||| 1 <<< n) 0

def bitsOf (rs : List CodeRange) : Nat := rs.foldl (fun b r => b ||| r.bits) 0

def readText (table : Text) : List CodeRange :=
  (((table.map fun c => if c = '\n' then ' ' else c) |> Text.pieces ' ').filter
    (!·.isEmpty)).map ofEntry

theorem testBit_one_shiftLeft (k n : Nat) : (1 <<< k).testBit n = decide (k = n) := by
  rw [Nat.one_shiftLeft, Nat.testBit_two_pow]

theorem testBit_bits (r : CodeRange) (n : Nat) : r.bits.testBit n = r.has n := by
  unfold bits
  split
  · next hstep =>
    rw [Nat.testBit_shiftLeft, Nat.one_shiftLeft, Nat.testBit_two_pow_sub_one, has, hstep,
      Nat.mod_one, Bool.eq_iff_iff]
    simp only [ge_iff_le, Bool.and_eq_true, decide_eq_true_eq, beq_self_eq_true, and_true]
    omega
  · rw [testBit_foldl_or, Nat.zero_testBit, Bool.false_or, Bool.eq_iff_iff]
    simp only [testBit_one_shiftLeft, List.any_filter, List.any_eq_true, List.mem_range'_1,
      Bool.and_eq_true, decide_eq_true_eq]
    constructor
    · rintro ⟨m, -, hhas, rfl⟩
      exact hhas
    · intro h
      have hbounds : r.first ≤ n ∧ n ≤ r.last := by
        simp only [has, Bool.and_eq_true, decide_eq_true_eq] at h
        exact h.1
      exact ⟨n, by omega, h, rfl⟩

theorem testBit_bitsOf (rs : List CodeRange) (n : Nat) :
    (bitsOf rs).testBit n = rs.any (·.has n) := by
  rw [bitsOf, testBit_foldl_or, Nat.zero_testBit, Bool.false_or]
  simp only [testBit_bits]

theorem any_has_eq_of_bitsOf {rs ts : List CodeRange} (h : bitsOf rs = bitsOf ts) (n : Nat) :
    rs.any (·.has n) = ts.any (·.has n) := by
  rw [← testBit_bitsOf, h, testBit_bitsOf]

/-- Tables are read from their characters, which is what can be computed with. -/
theorem flatMap_read {tables : List String} {texts : List Text}
    (h : List.Forall₂ (fun table t => table = String.ofList t) tables texts) :
    tables.flatMap read = texts.flatMap readText := by
  induction h with
  | nil => rfl
  | cons htable _ ih =>
    rw [List.flatMap_cons, List.flatMap_cons, ih, htable, read, String.toList_ofList]
    rfl

end CodeRange

namespace Unicode

def wordCharacter : CharSet :=
  .union alphabetic (.union mark (.ofTables [decimalNumber, connectorPunctuation, "200C-200D"]))

def wordTables : List String :=
  [uppercaseLetter, lowercaseLetter, titlecaseLetter, modifierLetter, otherLetter, letterNumber,
    otherAlphabetic, nonspacingMark, spacingMark, enclosingMark, decimalNumber,
    connectorPunctuation, "200C-200D"]

theorem has_ofTables (tables : List String) (n : Nat) :
    (CharSet.ofTables tables).has n = (tables.flatMap CodeRange.read).any (·.has n) := rfl

theorem letter_eq : letter =
    .ofTables [uppercaseLetter, lowercaseLetter, titlecaseLetter, modifierLetter, otherLetter] := by
  simp [letter, categoryUnion, categories]

theorem mark_eq : mark = .ofTables [nonspacingMark, spacingMark, enclosingMark] := by
  simp [mark, categoryUnion, categories]

theorem has_wordCharacter (n : Nat) :
    wordCharacter.has n = (wordTables.flatMap CodeRange.read).any (·.has n) := by
  have hsplit : wordTables =
      ([uppercaseLetter, lowercaseLetter, titlecaseLetter, modifierLetter, otherLetter] ++
        [letterNumber, otherAlphabetic]) ++
      ([nonspacingMark, spacingMark, enclosingMark] ++
        [decimalNumber, connectorPunctuation, "200C-200D"]) := rfl
  rw [hsplit]
  simp only [wordCharacter, alphabetic, letter_eq, mark_eq, CharSet.has, has_ofTables,
    List.flatMap_append, List.any_append]

end Unicode

namespace Text

open Unicode

def asciiWordCodes : List CodeRange :=
  [⟨0x30, 0x39, 1⟩, ⟨0x41, 0x5A, 1⟩, ⟨0x5F, 0x5F, 1⟩, ⟨0x61, 0x7A, 1⟩]

def wordCodes : List CodeRange := asciiWordCodes ++ wordRanges.map fun r => ⟨r.1, r.2, 1⟩

theorem isWord_ascii : ∀ n < 0x80,
    ((Char.ofNat n).isAlphanum || Char.ofNat n == '_') = asciiWordCodes.any (·.has n) := by
  decide +kernel

theorem first_wordRanges : ∀ r ∈ wordRanges, 0x80 ≤ r.1 := by decide +kernel

theorem isWord_eq_any (c : Char) : isWord c = wordCodes.any (·.has c.toNat) := by
  rw [isWord, wordCodes, List.any_append, List.any_map]
  split
  · next h =>
    have hbeyond : wordRanges.any ((CodeRange.has · c.toNat) ∘ fun r => ⟨r.1, r.2, 1⟩) = false := by
      simp only [List.any_eq_false, Function.comp_apply, CodeRange.has, Bool.and_eq_true,
        decide_eq_true_eq]
      intro r hr hhas
      have := first_wordRanges r hr
      omega
    have hascii := isWord_ascii c.toNat h
    rw [Char.ofNat_toNat] at hascii
    rw [hbeyond, Bool.or_false, hascii]
  · next h =>
    have hascii : asciiWordCodes.any (·.has c.toNat) = false := by
      simp [asciiWordCodes, CodeRange.has]
      omega
    rw [hascii, Bool.false_or]
    simp [CodeRange.has, Function.comp_def, Nat.mod_one]

set_option maxRecDepth 10000 in
theorem bitsOf_wordTables :
    CodeRange.bitsOf (wordTables.flatMap CodeRange.read) = CodeRange.bitsOf wordCodes := by
  -- a literal text is its list of characters only to the unifier, so each table is named here
  have hread : wordTables.flatMap CodeRange.read = _ := CodeRange.flatMap_read
    (.cons (rfl : uppercaseLetter = _) (.cons (rfl : lowercaseLetter = _)
      (.cons (rfl : titlecaseLetter = _) (.cons (rfl : modifierLetter = _)
      (.cons (rfl : otherLetter = _) (.cons (rfl : letterNumber = _)
      (.cons (rfl : otherAlphabetic = _) (.cons (rfl : nonspacingMark = _)
      (.cons (rfl : spacingMark = _) (.cons (rfl : enclosingMark = _)
      (.cons (rfl : decimalNumber = _) (.cons (rfl : connectorPunctuation = _)
      (.cons (rfl : "200C-200D" = _) .nil)))))))))))))
  rw [hread]
  decide +kernel

theorem isWord_eq_has (c : Char) : isWord c = wordCharacter.has c.toNat := by
  rw [isWord_eq_any, has_wordCharacter, CodeRange.any_has_eq_of_bitsOf bitsOf_wordTables]

theorem isBlank_eq_has (c : Char) : isBlank c = whiteSpace.has c.toNat := by
  have hread : CodeRange.read "9-D 20 85 A0 1680 2000-200A 2028-2029 202F 205F 3000" =
      [⟨0x9, 0xD, 1⟩, ⟨0x20, 0x20, 1⟩, ⟨0x85, 0x85, 1⟩, ⟨0xA0, 0xA0, 1⟩, ⟨0x1680, 0x1680, 1⟩,
        ⟨0x2000, 0x200A, 1⟩, ⟨0x2028, 0x2029, 1⟩, ⟨0x202F, 0x202F, 1⟩, ⟨0x205F, 0x205F, 1⟩,
        ⟨0x3000, 0x3000, 1⟩] := by
    decide +kernel
  rw [whiteSpace, CharSet.ofTable, hread, Bool.eq_iff_iff]
  simp only [isBlank, CharSet.has, CodeRange.has, List.any_cons, List.any_nil, Nat.mod_one,
    beq_self_eq_true, Bool.and_true, Bool.or_false, Bool.or_eq_true, Bool.and_eq_true,
    decide_eq_true_eq, beq_iff_eq]
  omega

end Text

end SchemaSheet
