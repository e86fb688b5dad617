import SchemaSheet.Proofs.Attributes
import SchemaSheet.Proofs.Utf8

/-! The comment of a text, looked for in its bytes. A character beyond ASCII has bytes beyond ASCII
only, so none of them opens or closes a literal, escapes or begins a comment; a backslash is spent
on the first of them, and the scan is where it would be had it taken the character at once. So the
bytes have their first double slash where the text has its own, and what follows it begins with a
character. -/

namespace SchemaSheet

open Text.Utf8

namespace Literal

theorem nextByte_ascii (l : Literal) {c : Char} (h : c.toNat < 0x80) :
    l.nextByte c.toNat.toUInt8 = l.next c := by
  have hquote : c.toNat.toUInt8 = 0x22 ↔ c = '"' := asciiByte_inj (d := '"') h (by decide)
  have hbackslash : c.toNat.toUInt8 = 0x5C ↔ c = '\\' := asciiByte_inj (d := '\\') h (by decide)
  cases l with
  | outside => simp only [nextByte, next, hquote]
  | inside => simp only [nextByte, next, hquote, hbackslash]
  | escaped => rfl

/-- A byte beyond ASCII only spends a backslash. -/
theorem nextByte_of_le (l : Literal) {b : UInt8} (h : 0x80 ≤ b.toNat) :
    l.nextByte b = if l = .escaped then .inside else l := by
  have hquote : b ≠ 0x22 := ne_of_le h (by decide)
  have hbackslash : b ≠ 0x5C := ne_of_le h (by decide)
  cases l with
  | outside => simp [nextByte, hquote]
  | inside => simp [nextByte, hquote, hbackslash]
  | escaped => rfl

theorem next_of_le (l : Literal) {c : Char} (h : 0x80 ≤ c.toNat) :
    l.next c = if l = .escaped then .inside else l := by
  have hquote : c ≠ '"' := by
    rintro rfl
    exact absurd h (by decide)
  have hbackslash : c ≠ '\\' := by
    rintro rfl
    exact absurd h (by decide)
  cases l with
  | outside => simp [next, hquote]
  | inside => simp [next, hquote, hbackslash]
  | escaped => rfl

end Literal

namespace Attributes

open Text

/-- Outside a literal, a double slash follows. -/
def Begins (l : Literal) (before behind : Text) : Prop :=
  l.after before = .outside ∧ ∃ c, behind = '/' :: '/' :: c

theorem commentOffset?_of_le {l : Literal} {i : Nat} {bytes : List UInt8}
    (hbytes : ∀ b ∈ bytes, 0x80 ≤ b.toNat) (hl : l ≠ .escaped) (r : List UInt8) :
    commentOffset? l i (bytes ++ r) = commentOffset? l (i + bytes.length) r := by
  induction bytes generalizing i with
  | nil => rfl
  | cons b bytes ih =>
    have hb := hbytes b List.mem_cons_self
    have hslash : b ≠ 0x2F := ne_of_le hb (by decide)
    rw [List.cons_append, commentOffset?, if_neg (by simp [hslash]), l.nextByte_of_le hb, if_neg hl,
      ih fun d hd => hbytes d (List.mem_cons_of_mem b hd), List.length_cons, Nat.add_right_comm,
      Nat.add_assoc]

/-- A character at which no comment begins is passed with all of its bytes. -/
theorem commentOffset?_encodeChar {l : Literal} {c : Char} {r : List UInt8}
    (h : ¬ (l = .outside ∧ c = '/' ∧ r.head? = some 0x2F)) (i : Nat) :
    commentOffset? l i (encodeChar c ++ r) =
      commentOffset? (l.next c) (i + (encodeChar c).length) r := by
  by_cases hc : c.toNat < 0x80
  · have hslash : c.toNat.toUInt8 = 0x2F ↔ c = '/' := asciiByte_inj (d := '/') hc (by decide)
    rw [← hslash] at h
    rw [encodeChar_of_lt hc, List.singleton_append, commentOffset?, if_neg h, l.nextByte_ascii hc]
    rfl
  · obtain ⟨b, bs, hbytes, -, -⟩ := encodeChar_eq_cons c
    have hall : ∀ d ∈ b :: bs, 0x80 ≤ d.toNat := fun d hd =>
      le_of_mem_encodeChar (by omega) (hbytes ▸ hd)
    have hb := hall b List.mem_cons_self
    have hslash : b ≠ 0x2F := ne_of_le hb (by decide)
    have hnext : l.next c ≠ .escaped := by
      rw [l.next_of_le (by omega)]
      split
      · exact Literal.noConfusion
      · next hl => exact hl
    -- the backslash is spent on the first byte, and the others are passed in the state behind it
    rw [hbytes, List.cons_append, commentOffset?, if_neg (by simp [hslash]), l.nextByte_of_le hb,
      ← l.next_of_le (c := c) (by omega),
      commentOffset?_of_le (fun d hd => hall d (List.mem_cons_of_mem b hd)) hnext,
      List.length_cons, Nat.add_right_comm, Nat.add_assoc]

theorem comment?_slashes (t : Text) : comment? .outside ('/' :: '/' :: t) = some t := by
  simp [comment?, after?]

theorem comment?_cons {l : Literal} {d : Char} {t : Text} (h : ¬ Begins l [] (d :: t)) :
    comment? l (d :: t) = comment? (l.next d) t := by
  by_cases hl : l = .outside
  · have hafter : after? "//".toList (d :: t) = none := by
      rw [Option.eq_none_iff_forall_ne_some]
      intro c hc
      exact h ⟨hl, c, eq_append_of_after? hc⟩
    rw [comment?, hafter, ite_self]
  · rw [comment?, if_neg hl]

theorem commentOffset?_cons {l : Literal} {d : Char} {t : Text} (h : ¬ Begins l [] (d :: t))
    (i : Nat) :
    commentOffset? l i (encode (d :: t)) =
      commentOffset? (l.next d) (i + (encodeChar d).length) (encode t) := by
  refine commentOffset?_encodeChar ?_ i
  rintro ⟨hl, rfl, hhead⟩
  obtain ⟨c, rfl⟩ := List.head?_eq_some_iff.1 ((head?_encode (c := '/') (by decide) t).1 hhead)
  exact h ⟨hl, c, rfl⟩

/-- The scans of the characters and of the bytes stop at the same place. -/
theorem commentOffset?_encode (l : Literal) (i : Nat) (t : Text) :
    commentOffset? l i (encode t) =
      (comment? l t).map fun c => i + ((encode t).length - (encode c).length) := by
  induction t generalizing l i with
  | nil => rfl
  | cons d t ih =>
    by_cases hhere : Begins l [] (d :: t)
    · obtain ⟨rfl, c, hcut⟩ := hhere
      have hslashes : encode ('/' :: '/' :: c) = 0x2F :: 0x2F :: encode c := rfl
      rw [hcut, comment?_slashes, Option.map_some, hslashes, commentOffset?, if_pos ⟨rfl, rfl, rfl⟩,
        List.length_cons, List.length_cons]
      congr 1
      omega
    · -- what is left of the text is a suffix, so its bytes can be counted from either end
      rw [commentOffset?_cons hhere, ih, comment?_cons hhere]
      refine Option.map_congr fun r hr => ?_
      obtain ⟨s, rfl⟩ := suffix_of_comment? hr
      simp only [encode_cons, encode_append, List.length_append]
      omega

theorem firstCut_of_comment? {l : Literal} {t c : Text} (h : comment? l t = some c) :
    ∃ p, FirstCut (Begins l) t p ('/' :: '/' :: c) := by
  induction t generalizing l with
  | nil => cases h
  | cons d t ih =>
    by_cases hhere : Begins l [] (d :: t)
    · obtain ⟨rfl, r, hcut⟩ := hhere
      rw [hcut] at h ⊢
      rw [comment?_slashes] at h
      cases h
      exact ⟨[], firstCut_nil ⟨rfl, c, rfl⟩⟩
    · rw [comment?_cons hhere] at h
      obtain ⟨p, hp⟩ := ih h
      exact ⟨d :: p, FirstCut.cons hp hhere⟩

theorem comment?_eq_none_iff_not_begins {l : Literal} {t : Text} :
    comment? l t = none ↔ ¬ ∃ p r, t = p ++ r ∧ Begins l p r := by
  rw [comment?_eq_none_iff]
  constructor
  · rintro h ⟨p, r, hcut, hl, c, rfl⟩
    exact h p c hcut hl
  · intro h p c hcut hl
    exact h ⟨p, _, hcut, hl, c, rfl⟩

theorem comment?_eq_some_iff {l : Literal} {t c : Text} :
    comment? l t = some c ↔ ∃ p, FirstCut (Begins l) t p ('/' :: '/' :: c) := by
  refine ⟨firstCut_of_comment?, ?_⟩
  rintro ⟨p, hp⟩
  cases hfound : comment? l t with
  | none => exact absurd ⟨p, _, hp.cut, hp.holds⟩ (comment?_eq_none_iff_not_begins.1 hfound)
  | some found =>
    obtain ⟨q, hq⟩ := firstCut_of_comment? hfound
    simpa using (hq.unique hp).2

/-- Where the scan of the bytes stops there is a cut between characters, behind the slashes. -/
theorem exists_of_commentOffset? {t : Text} {n : Nat}
    (h : commentOffset? .outside 0 (encode t) = some n) :
    ∃ p c, FirstCut (Begins .outside) t p ('/' :: '/' :: c) ∧
      n = (encode (p ++ "//".toList)).length ∧
      slice? (encode t) n = some (encode c) ∧ comment? .outside t = some c := by
  rw [commentOffset?_encode] at h
  obtain ⟨c, hc, rfl⟩ := Option.map_eq_some_iff.1 h
  obtain ⟨p, hp⟩ := firstCut_of_comment? hc
  have hcut : t = p ++ "//".toList ++ c := by
    rw [List.append_assoc]
    exact hp.cut
  have hn : 0 + ((encode t).length - (encode c).length) = (encode (p ++ "//".toList)).length := by
    rw [hcut, encode_append _ c, List.length_append]
    omega
  refine ⟨p, c, hp, hn, ?_, hc⟩
  rw [hn, hcut]
  exact slice?_encode_append _ c

/-- What follows the slashes in bytes is what follows them in characters; it is never refused. -/
theorem trailing?_encode (t : Text) :
    trailing? (encode t) = (comment? .outside t).map (fun c => some (encode c)) := by
  unfold trailing?
  cases hoffset : commentOffset? .outside 0 (encode t) with
  | none =>
    rw [commentOffset?_encode, Option.map_eq_none_iff] at hoffset
    rw [hoffset]
    rfl
  | some n =>
    obtain ⟨p, c, -, -, hslice, hc⟩ := exists_of_commentOffset? hoffset
    rw [hc, Option.map_some, Option.map_some, hslice]

/-- The scan of the bytes gives the comment of the characters, from the first place at which one
begins. It stops at a cut between characters, so the slice is never refused. -/
theorem trailing_encode (t : Text) :
    trailing? (encode t) = (comment? .outside t).map (fun c => some (encode c)) ∧
    (∀ c, trailing? (encode t) = some (some (encode c)) ↔
      ∃ p, FirstCut (Begins .outside) t p ('/' :: '/' :: c)) ∧
    (trailing? (encode t) = none ↔ ¬ ∃ p r, t = p ++ r ∧ Begins .outside p r) ∧
    trailing? (encode t) ≠ some none ∧
    ∀ n, commentOffset? .outside 0 (encode t) = some n →
      isBoundary (encode t) n = true ∧
      ∃ p c, FirstCut (Begins .outside) t p ('/' :: '/' :: c) ∧
        n = (encode (p ++ "//".toList)).length := by
  refine ⟨trailing?_encode t, fun c => ?_, ?_, ?_, fun n hn => ?_⟩
  · rw [trailing?_encode, ← comment?_eq_some_iff]
    simp [encode_injective.eq_iff]
  · rw [trailing?_encode, Option.map_eq_none_iff, comment?_eq_none_iff_not_begins]
  · rw [trailing?_encode]
    simp
  · obtain ⟨p, c, hp, hlen, hslice, -⟩ := exists_of_commentOffset? hn
    refine ⟨?_, p, c, hp, hlen⟩
    unfold slice? at hslice
    split at hslice
    · next hboundary => exact hboundary
    · cases hslice

/-- The backslash takes along a character of three bytes, and the comment begins with such a one. -/
theorem trailing_encode_multibyte :
    trailing? (encode "\"\\注//\"//注".toList) = some (some (encode "注".toList)) ∧
      isBoundary (encode "\"\\注//\"//注".toList) 10 = true :=
  ⟨(trailing_encode _).1.trans (by decide), ((trailing_encode _).2.2.2.2 10 (by decide)).1⟩

theorem trailingComment?_eq (t : Text) : trailingComment? t = comment? .outside t := by
  rw [trailingComment?, trailing?_encode]
  cases comment? .outside t with
  | none => rfl
  | some c => exact text?_encode c

theorem comment_ofText (t : Text) :
    (ofText t).comment = ((comment? .outside t).map tidy).getD [] := by
  rw [ofText, trailingComment?_eq]

theorem trim_comment (t : Text) : trim (ofText t).comment = (ofText t).comment := by
  rw [comment_ofText]
  cases comment? .outside t with
  | none => rfl
  | some r => exact trim_trim _

theorem comment_isSuffix {t : Text} (ht : trimEnd t = t) : (ofText t).comment <:+ t := by
  rw [comment_ofText]
  cases h : comment? .outside t with
  | none => exact List.nil_suffix
  | some r => exact trim_of_suffix ((List.dropWhile_suffix _).trans (suffix_of_comment? h)) ht

end Attributes

end SchemaSheet
