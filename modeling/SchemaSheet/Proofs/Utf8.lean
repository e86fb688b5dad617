import SchemaSheet.Text.Utf8

/-! Decoding undoes encoding: whatever bytes follow, those of a character are read as the
character, so that bytes tell their text, and nothing else is read as a character. An ASCII
character is counted in the bytes as it is in the text, and the places at which the bytes of a text
can be cut are those between its characters. Bytes that are no text are cut at ASCII characters too,
and what belongs to no character shows as a replacement character. -/

namespace SchemaSheet

namespace Text.Utf8

section First

variable {a b c d : UInt8} {w x y z : Nat}

theorem first?_one (ha : a.toNat < 0x80) (r : List UInt8) :
    first? (a :: r) = some (Char.ofNat a.toNat, 1) := by
  simp [first?, ha]

theorem first?_two (ha : a.toNat = 0xC0 + w) (hw : w < 0x20) (hb : tail? b = some x)
    (r : List UInt8) : first? (a :: b :: r) = (scalar? 0x80 (w * 64 + x)).map (·, 2) := by
  have hlead : ¬ a.toNat < 0x80 ∧ 0xC0 ≤ a.toNat ∧ a.toNat < 0xE0 := by omega
  have hrest : a.toNat - 0xC0 = w := by omega
  cases hs : scalar? 0x80 (w * 64 + x) <;> simp [first?, hlead, hrest, hb, hs]

theorem first?_three (ha : a.toNat = 0xE0 + w) (hw : w < 0x10) (hb : tail? b = some x)
    (hc : tail? c = some y) (r : List UInt8) :
    first? (a :: b :: c :: r) = (scalar? 0x800 ((w * 64 + x) * 64 + y)).map (·, 3) := by
  have hlead : ¬ a.toNat < 0x80 ∧ ¬ a.toNat < 0xE0 ∧ 0xE0 ≤ a.toNat ∧ a.toNat < 0xF0 := by omega
  have hrest : a.toNat - 0xE0 = w := by omega
  cases hs : scalar? 0x800 ((w * 64 + x) * 64 + y) <;> simp [first?, hlead, hrest, hb, hc, hs]

theorem first?_four (ha : a.toNat = 0xF0 + w) (hw : w < 0x08) (hb : tail? b = some x)
    (hc : tail? c = some y) (hd : tail? d = some z) (r : List UInt8) :
    first? (a :: b :: c :: d :: r) =
      (scalar? 0x10000 (((w * 64 + x) * 64 + y) * 64 + z)).map (·, 4) := by
  have hlead : ¬ a.toNat < 0x80 ∧ ¬ a.toNat < 0xE0 ∧ ¬ a.toNat < 0xF0 ∧ 0xF0 ≤ a.toNat ∧
      a.toNat < 0xF8 := by omega
  have hrest : a.toNat - 0xF0 = w := by omega
  cases hs : scalar? 0x10000 (((w * 64 + x) * 64 + y) * 64 + z) <;>
    simp [first?, hlead, hrest, hb, hc, hd, hs]

end First

theorem toNat_toUInt8 {n : Nat} (h : n < 256) : n.toUInt8.toNat = n := by
  rw [Nat.toUInt8_eq, UInt8.toNat_ofNat_of_lt' h]

theorem tail?_continuation (n : Nat) : tail? (0x80 + n % 64).toUInt8 = some (n % 64) := by
  have hlt : 0x80 + n % 64 < 0xC0 := by omega
  rw [tail?, toNat_toUInt8 (by omega)]
  simp [hlt]

theorem scalar?_toNat {c : Char} {least n : Nat} (h : least ≤ n) (hn : n = c.toNat) :
    scalar? least n = some c := by
  subst hn
  rw [scalar?, if_pos ⟨h, c.valid⟩, Char.ofNat_toNat]

theorem encodeChar_of_lt {c : Char} (h : c.toNat < 0x80) : encodeChar c = [c.toNat.toUInt8] := by
  simp [encodeChar, width, h]

theorem encodeChar_cases (c : Char) :
    (c.toNat < 0x80 ∧ encodeChar c = [c.toNat.toUInt8]) ∨
    (0x80 ≤ c.toNat ∧ c.toNat < 0x800 ∧
      encodeChar c = [(0xC0 + c.toNat / 64).toUInt8, (0x80 + c.toNat / 1 % 64).toUInt8]) ∨
    (0x800 ≤ c.toNat ∧ c.toNat < 0x10000 ∧
      encodeChar c = [(0xE0 + c.toNat / 4096).toUInt8, (0x80 + c.toNat / 64 % 64).toUInt8,
        (0x80 + c.toNat / 1 % 64).toUInt8]) ∨
    (0x10000 ≤ c.toNat ∧ c.toNat < 0x110000 ∧
      encodeChar c = [(0xF0 + c.toNat / 262144).toUInt8, (0x80 + c.toNat / 4096 % 64).toUInt8,
        (0x80 + c.toNat / 64 % 64).toUInt8, (0x80 + c.toNat / 1 % 64).toUInt8]) := by
  have hvalid : c.toNat < 0xD800 ∨ 0xDFFF < c.toNat ∧ c.toNat < 0x110000 := c.valid
  by_cases h1 : c.toNat < 0x80
  · exact Or.inl ⟨h1, encodeChar_of_lt h1⟩
  by_cases h2 : c.toNat < 0x800
  · have hwidth : width c = 2 := by simp [width, h1, h2]
    exact Or.inr (Or.inl ⟨by omega, h2, by simp only [encodeChar, hwidth]⟩)
  by_cases h3 : c.toNat < 0x10000
  · have hwidth : width c = 3 := by simp [width, h1, h2, h3]
    exact Or.inr (Or.inr (Or.inl ⟨by omega, h3, by simp only [encodeChar, hwidth]⟩))
  · have hwidth : width c = 4 := by simp [width, h1, h2, h3]
    exact Or.inr (Or.inr (Or.inr ⟨by omega, by omega, by simp only [encodeChar, hwidth]⟩))

theorem first?_encodeChar (c : Char) (r : List UInt8) :
    first? (encodeChar c ++ r) = some (c, (encodeChar c).length) := by
  rcases encodeChar_cases c with ⟨h, hbytes⟩ | ⟨hle, hlt, hbytes⟩ | ⟨hle, hlt, hbytes⟩ |
    ⟨hle, hlt, hbytes⟩
  · have hbyte : c.toNat.toUInt8.toNat = c.toNat := toNat_toUInt8 (by omega)
    rw [hbytes, List.singleton_append, first?_one (by omega), hbyte, Char.ofNat_toNat]
    rfl
  · rw [hbytes, List.cons_append, List.singleton_append,
      first?_two (toNat_toUInt8 (by omega)) (by omega) (tail?_continuation _),
      scalar?_toNat (c := c) (by omega) (by omega)]
    rfl
  · rw [hbytes, List.cons_append, List.cons_append, List.singleton_append,
      first?_three (toNat_toUInt8 (by omega)) (by omega) (tail?_continuation _)
        (tail?_continuation _),
      scalar?_toNat (c := c) (by omega) (by omega)]
    rfl
  · rw [hbytes, List.cons_append, List.cons_append, List.cons_append, List.singleton_append,
      first?_four (toNat_toUInt8 (by omega)) (by omega) (tail?_continuation _)
        (tail?_continuation _) (tail?_continuation _),
      scalar?_toNat (c := c) (by omega) (by omega)]
    rfl

theorem le_of_mem_encodeChar {c : Char} (h : 0x80 ≤ c.toNat) {b : UInt8}
    (hb : b ∈ encodeChar c) : 0x80 ≤ b.toNat := by
  rcases encodeChar_cases c with ⟨hlt, -⟩ | ⟨-, hlt, hbytes⟩ | ⟨-, hlt, hbytes⟩ |
    ⟨-, hlt, hbytes⟩
  · omega
  all_goals
    rw [hbytes] at hb
    simp only [List.mem_cons, List.not_mem_nil, or_false] at hb
  · rcases hb with rfl | rfl <;> rw [toNat_toUInt8 (by omega)] <;> omega
  · rcases hb with rfl | rfl | rfl <;> rw [toNat_toUInt8 (by omega)] <;> omega
  · rcases hb with rfl | rfl | rfl | rfl <;> rw [toNat_toUInt8 (by omega)] <;> omega

theorem ne_of_le {a b : UInt8} (ha : 0x80 ≤ a.toNat) (hb : b.toNat < 0x80) : a ≠ b := by
  rintro rfl
  omega

theorem asciiByte_inj {c d : Char} (hc : c.toNat < 0x80) (hd : d.toNat < 0x80) :
    c.toNat.toUInt8 = d.toNat.toUInt8 ↔ c = d := by
  rw [← UInt8.toNat_inj, toNat_toUInt8 (by omega), toNat_toUInt8 (by omega), Char.toNat_inj]

theorem count_encodeChar {c : Char} (h : c.toNat < 0x80) (d : Char) :
    (encodeChar d).count c.toNat.toUInt8 = if d = c then 1 else 0 := by
  have hbyte : c.toNat.toUInt8.toNat = c.toNat := toNat_toUInt8 (by omega)
  by_cases hd : d.toNat < 0x80
  · rw [encodeChar_of_lt hd, List.count_singleton]
    simp only [beq_iff_eq, asciiByte_inj hd h]
  · have hne : d ≠ c := by
      rintro rfl
      exact hd h
    rw [if_neg hne, List.count_eq_zero]
    intro hmem
    have := le_of_mem_encodeChar (by omega) hmem
    omega

/-- An ASCII character stands in a text as often as its byte stands among the bytes. -/
theorem count_encode {c : Char} (h : c.toNat < 0x80) (t : Text) :
    (encode t).count c.toNat.toUInt8 = t.count c := by
  induction t with
  | nil => rfl
  | cons d t ih =>
    rw [encode, List.flatMap_cons, List.count_append, ← encode, ih, count_encodeChar h,
      List.count_cons, Nat.add_comm]
    simp only [beq_iff_eq]

theorem mem_encode_iff {c : Char} (h : c.toNat < 0x80) {t : Text} :
    c.toNat.toUInt8 ∈ encode t ↔ c ∈ t := by
  rw [← List.count_pos_iff, count_encode h, List.count_pos_iff]

theorem encodeChar_ne_nil (c : Char) : encodeChar c ≠ [] := by
  intro h
  have := first?_encodeChar c []
  rw [h] at this
  cases this

theorem decode_encodeChar (c : Char) (r : List UInt8) :
    decode (encodeChar c ++ r) = some c :: decode r := by
  have hfirst := first?_encodeChar c r
  obtain ⟨a, s, hbytes⟩ := List.exists_cons_of_ne_nil (encodeChar_ne_nil c)
  rw [hbytes, List.cons_append] at hfirst
  rw [hbytes, List.cons_append, decode_cons, hfirst]
  simp

theorem decode_encode (t : Text) : decode (encode t) = t.map some := by
  induction t with
  | nil => rw [encode, List.flatMap_nil, decode_nil, List.map_nil]
  | cons c t ih => rw [encode, List.flatMap_cons, decode_encodeChar, ← encode, ih, List.map_cons]

theorem text?_encode (t : Text) : text? (encode t) = some t := by
  have hall := List.mapM_pure (m := Option) (l := t) (f := id)
  rw [text?, decode_encode, List.mapM_map]
  simpa using hall

theorem encode_injective : Function.Injective encode := by
  intro s t h
  have := congrArg text? h
  rwa [text?_encode, text?_encode, Option.some.injEq] at this

@[simp] theorem encode_nil : encode [] = [] := rfl

theorem encode_cons (c : Char) (t : Text) : encode (c :: t) = encodeChar c ++ encode t := rfl

theorem encode_append (s t : Text) : encode (s ++ t) = encode s ++ encode t := by
  rw [encode, List.flatMap_append, ← encode, ← encode]

/-- Of the bytes of a character, the first continues none and the others do. -/
theorem encodeChar_eq_cons (c : Char) :
    ∃ b bs, encodeChar c = b :: bs ∧ tail? b = none ∧ ∀ d ∈ bs, (tail? d).isSome = true := by
  have hlead {n : Nat} (hn : n < 256) (h : n < 0x80 ∨ 0xC0 ≤ n) : tail? n.toUInt8 = none := by
    simp only [tail?, toNat_toUInt8 hn]
    rw [if_neg (by simp; omega)]
  rcases encodeChar_cases c with ⟨hlt, hbytes⟩ | ⟨-, hlt, hbytes⟩ | ⟨-, hlt, hbytes⟩ |
    ⟨-, hlt, hbytes⟩
  all_goals
    refine ⟨_, _, hbytes, hlead (by omega) (by omega), ?_⟩
    simp only [List.forall_mem_cons, tail?_continuation, Option.isSome_some, List.not_mem_nil,
      false_implies, implies_true, and_self]

theorem isBoundary_append (a b : List UInt8) (n : Nat) :
    isBoundary (a ++ b) (a.length + n) = isBoundary b n := by
  rw [isBoundary, isBoundary, List.getElem?_append_right (Nat.le_add_right _ _),
    Nat.add_sub_cancel_left, List.length_append]
  cases b[n]? with
  | some c => rfl
  | none =>
    rw [Bool.eq_iff_iff, beq_iff_eq, beq_iff_eq]
    omega

theorem isBoundary_zero (t : Text) : isBoundary (encode t) 0 = true := by
  cases t with
  | nil => rfl
  | cons c t =>
    obtain ⟨b, bs, hbytes, hb, -⟩ := encodeChar_eq_cons c
    rw [encode_cons, hbytes]
    simp [isBoundary, hb]

/-- The bytes of a text can be cut between its characters, and nowhere else. -/
theorem isBoundary_encode_iff {t : Text} {n : Nat} :
    isBoundary (encode t) n = true ↔ ∃ s r, t = s ++ r ∧ n = (encode s).length := by
  constructor
  · intro h
    induction t generalizing n with
    | nil =>
      have hn : n = 0 := by simpa [isBoundary] using h
      exact ⟨[], [], rfl, hn⟩
    | cons c t ih =>
      obtain ⟨b, bs, hbytes, -, htail⟩ := encodeChar_eq_cons c
      have hlen : (encodeChar c).length = bs.length + 1 := by rw [hbytes, List.length_cons]
      rcases n with _ | n
      · exact ⟨[], c :: t, rfl, rfl⟩
      by_cases hn : n < bs.length
      · -- within the character there is a byte that continues it
        have hbyte : (encode (c :: t))[n + 1]? = some bs[n] := by
          rw [encode_cons, hbytes, List.cons_append, List.getElem?_cons_succ,
            List.getElem?_append_left hn, List.getElem?_eq_getElem hn]
        have hsome := htail bs[n] (List.getElem_mem hn)
        rw [isBoundary, hbyte, Option.isNone_iff_eq_none] at h
        rw [h] at hsome
        cases hsome
      · have hcut : n + 1 = (encodeChar c).length + (n - bs.length) := by omega
        rw [encode_cons, hcut, isBoundary_append] at h
        obtain ⟨s, r, rfl, hs⟩ := ih h
        exact ⟨c :: s, r, rfl, by rw [hcut, encode_cons, List.length_append, hs]⟩
  · rintro ⟨s, r, rfl, rfl⟩
    have := isBoundary_append (encode s) (encode r) 0
    rwa [← encode_append, Nat.add_zero, isBoundary_zero] at this

theorem slice?_encode_append (s t : Text) :
    slice? (encode (s ++ t)) (encode s).length = some (encode t) := by
  rw [slice?, if_pos (isBoundary_encode_iff.2 ⟨s, t, rfl, rfl⟩), encode_append, List.drop_left]

/-- The first byte of a text is an ASCII one if its first character is. -/
theorem head?_encode {c : Char} (h : c.toNat < 0x80) (t : Text) :
    (encode t).head? = some c.toNat.toUInt8 ↔ t.head? = some c := by
  cases t with
  | nil => simp
  | cons d t =>
    by_cases hd : d.toNat < 0x80
    · rw [encode_cons, encodeChar_of_lt hd, List.singleton_append, List.head?_cons, List.head?_cons,
        Option.some.injEq, Option.some.injEq, asciiByte_inj hd h]
    · obtain ⟨b, bs, hbytes, -, -⟩ := encodeChar_eq_cons d
      have hb : 0x80 ≤ b.toNat := le_of_mem_encodeChar (by omega) (hbytes ▸ List.mem_cons_self)
      have hbyte : b ≠ c.toNat.toUInt8 := ne_of_le hb (by rwa [toNat_toUInt8 (by omega)])
      have hchar : d ≠ c := by
        rintro rfl
        exact hd h
      simp [encode_cons, hbytes, hbyte, hchar]

theorem toNat_of_tail? {b : UInt8} {x : Nat} (h : tail? b = some x) :
    b.toNat = 0x80 + x ∧ x < 0x40 := by
  simp only [tail?, Bool.and_eq_true, decide_eq_true_eq, Option.ite_none_right_eq_some,
    Option.some.injEq] at h
  omega

theorem toNat_ofNat {n : Nat} (h : n.isValidChar) : (Char.ofNat n).toNat = n := by
  rw [Char.ofNat, dif_pos h]
  rfl

theorem toNat_of_scalar? {least n : Nat} {c : Char} (h : scalar? least n = some c) :
    least ≤ n ∧ c.toNat = n := by
  simp only [scalar?, Option.ite_none_right_eq_some, Option.some.injEq] at h
  obtain ⟨⟨hle, hvalid⟩, rfl⟩ := h
  exact ⟨hle, toNat_ofNat hvalid⟩

theorem toUInt8_eq {n : Nat} {b : UInt8} (h : n = b.toNat) : n.toUInt8 = b := by
  rw [h, Nat.toUInt8_eq, UInt8.ofNat_toNat]

section Second

variable {a b c d : UInt8} {w x y z : Nat} {e : Char}

theorem encodeChar_one (ha : a.toNat < 0x80) : encodeChar (Char.ofNat a.toNat) = [a] := by
  have hvalid : a.toNat.isValidChar := Or.inl (by omega)
  rw [encodeChar_of_lt (by rwa [toNat_ofNat hvalid]), toNat_ofNat hvalid, toUInt8_eq rfl]

theorem encodeChar_two (ha : a.toNat = 0xC0 + w) (hw : w < 0x20) (hb : tail? b = some x)
    (he : scalar? 0x80 (w * 64 + x) = some e) : encodeChar e = [a, b] := by
  have := toNat_of_tail? hb
  have := toNat_of_scalar? he
  rcases encodeChar_cases e with h | ⟨-, -, hbytes⟩ | h | h
  · omega
  · rw [hbytes, toUInt8_eq (b := a) (by omega), toUInt8_eq (b := b) (by omega)]
  · omega
  · omega

theorem encodeChar_three (ha : a.toNat = 0xE0 + w) (hw : w < 0x10) (hb : tail? b = some x)
    (hc : tail? c = some y) (he : scalar? 0x800 ((w * 64 + x) * 64 + y) = some e) :
    encodeChar e = [a, b, c] := by
  have := toNat_of_tail? hb
  have := toNat_of_tail? hc
  have := toNat_of_scalar? he
  rcases encodeChar_cases e with h | h | ⟨-, -, hbytes⟩ | h
  · omega
  · omega
  · rw [hbytes, toUInt8_eq (b := a) (by omega), toUInt8_eq (b := b) (by omega),
      toUInt8_eq (b := c) (by omega)]
  · omega

theorem encodeChar_four (ha : a.toNat = 0xF0 + w) (hb : tail? b = some x) (hc : tail? c = some y)
    (hd : tail? d = some z)
    (he : scalar? 0x10000 (((w * 64 + x) * 64 + y) * 64 + z) = some e) :
    encodeChar e = [a, b, c, d] := by
  have := toNat_of_tail? hb
  have := toNat_of_tail? hc
  have := toNat_of_tail? hd
  have := toNat_of_scalar? he
  rcases encodeChar_cases e with h | h | h | ⟨-, -, hbytes⟩
  · omega
  · omega
  · omega
  · rw [hbytes, toUInt8_eq (b := a) (by omega), toUInt8_eq (b := b) (by omega),
      toUInt8_eq (b := c) (by omega), toUInt8_eq (b := d) (by omega)]

end Second

/-- A character is read only from its own bytes. -/
theorem eq_encodeChar_append {bytes : List UInt8} {c : Char} {n : Nat}
    (h : first? bytes = some (c, n)) :
    ∃ r, bytes = encodeChar c ++ r ∧ n = (encodeChar c).length := by
  cases bytes with
  | nil => cases h
  | cons a r =>
    rw [first?] at h
    split at h
    · next hlead =>
      cases h
      rw [encodeChar_one hlead]
      exact ⟨r, rfl, rfl⟩
    split at h
    · next hlead =>
      simp only [Option.bind_eq_bind, Option.bind_eq_some_iff, Option.pure_def,
        Option.some.injEq, Prod.mk.injEq] at h
      obtain ⟨x, ⟨b, hb, hx⟩, d, hd, rfl, rfl⟩ := h
      rcases r with _ | ⟨b', r⟩
      · cases hb
      cases hb
      rw [encodeChar_two (a := a) (by omega) (by omega) hx hd]
      exact ⟨r, rfl, rfl⟩
    split at h
    · next hlead =>
      simp only [Option.bind_eq_bind, Option.bind_eq_some_iff, Option.pure_def,
        Option.some.injEq, Prod.mk.injEq] at h
      obtain ⟨x, ⟨b, hb, hx⟩, y, ⟨e, he, hy⟩, d, hd, rfl, rfl⟩ := h
      rcases r with _ | ⟨b', _ | ⟨e', r⟩⟩
      · cases hb
      · cases he
      cases hb
      cases he
      rw [encodeChar_three (a := a) (by omega) (by omega) hx hy hd]
      exact ⟨r, rfl, rfl⟩
    split at h
    · next hlead =>
      simp only [Option.bind_eq_bind, Option.bind_eq_some_iff, Option.pure_def,
        Option.some.injEq, Prod.mk.injEq] at h
      obtain ⟨x, ⟨b, hb, hx⟩, y, ⟨e, he, hy⟩, z, ⟨f, hf, hz⟩, d, hd, rfl, rfl⟩ := h
      rcases r with _ | ⟨b', _ | ⟨e', _ | ⟨f', r⟩⟩⟩
      · cases hb
      · cases he
      · cases hf
      cases hb
      cases he
      cases hf
      rw [encodeChar_four (a := a) (by omega) hx hy hz hd]
      exact ⟨r, rfl, rfl⟩
    · cases h

/-- Induction along what bytes are read as: a character, or a byte that belongs to none. -/
@[elab_as_elim]
theorem decode_induction {motive : List UInt8 → Prop} (nil : motive [])
    (char : ∀ c r, motive r → motive (encodeChar c ++ r))
    (hole : ∀ a r, first? (a :: r) = none → motive r → motive (a :: r)) (bytes : List UInt8) :
    motive bytes := by
  induction hlength : bytes.length using Nat.strongRecOn generalizing bytes with
  | ind n ih =>
    subst hlength
    cases bytes with
    | nil => exact nil
    | cons a r =>
      cases hfirst : first? (a :: r) with
      | none => exact hole a r hfirst (ih r.length (by simp) r rfl)
      | some found =>
        obtain ⟨s, hbytes, -⟩ := eq_encodeChar_append hfirst
        have hshort : s.length < (a :: r).length := by
          have hwidth := List.length_pos_iff.2 (encodeChar_ne_nil found.1)
          rw [hbytes, List.length_append]
          omega
        rw [hbytes]
        exact char found.1 s (ih s.length hshort s rfl)

theorem decode_hole {a : UInt8} {r : List UInt8} (h : first? (a :: r) = none) :
    decode (a :: r) = none :: decode r := by
  rw [decode_cons, h]

theorem eq_encode_of_decode {bytes : List UInt8} {t : Text} (h : decode bytes = t.map some) :
    bytes = encode t := by
  induction bytes using decode_induction generalizing t with
  | nil =>
    rw [decode_nil] at h
    rw [List.map_eq_nil_iff.1 h.symm, encode_nil]
  | char c r ih =>
    rw [decode_encodeChar] at h
    cases t with
    | nil => cases h
    | cons d t =>
      rw [List.map_cons, List.cons.injEq, Option.some.injEq] at h
      rw [h.1, encode_cons, ih h.2]
  | hole a r hfirst =>
    rw [decode_hole hfirst] at h
    cases t <;> cases h

theorem mapM_id_eq_some_iff {α : Type} {xs : List (Option α)} {ys : List α} :
    xs.mapM id = some ys ↔ xs = ys.map some := by
  induction xs generalizing ys with
  | nil => cases ys <;> simp
  | cons x xs ih =>
    cases x with
    | none => cases ys <;> simp [List.mapM_cons]
    | some x =>
      cases ys with
      | nil => simp [List.mapM_cons, Option.bind_eq_some_iff]
      | cons y ys =>
        simp only [List.mapM_cons, id_eq, Option.bind_eq_bind, Option.bind_some,
          Option.bind_eq_some_iff, Option.pure_def, Option.some.injEq, List.cons.injEq, ih,
          List.map_cons]
        constructor
        · rintro ⟨zs, hxs, rfl, rfl⟩
          exact ⟨rfl, hxs⟩
        · rintro ⟨rfl, hxs⟩
          exact ⟨ys, hxs, rfl, rfl⟩

theorem text?_eq_some_iff {bytes : List UInt8} {t : Text} :
    text? bytes = some t ↔ bytes = encode t := by
  constructor
  · intro h
    exact eq_encode_of_decode (mapM_id_eq_some_iff.1 h)
  · rintro rfl
    exact text?_encode t

theorem tail?_ascii {c : Char} (hc : c.toNat < 0x80) : tail? c.toNat.toUInt8 = none := by
  rw [tail?, toNat_toUInt8 (by omega)]
  simp [Nat.not_le.2 hc]

/-- Behind a byte that belongs to no character, an ASCII character does not make it one. -/
theorem first?_append_ascii {c : Char} (hc : c.toNat < 0x80) {a : UInt8} {r : List UInt8}
    (h : first? (a :: r) = none) (b : List UInt8) :
    first? (a :: (r ++ c.toNat.toUInt8 :: b)) = none := by
  cases hread : first? (a :: (r ++ c.toNat.toUInt8 :: b)) with
  | none => rfl
  | some read =>
    obtain ⟨s, hbytes, -⟩ := eq_encodeChar_append (c := read.1) (n := read.2) hread
    rw [← List.cons_append, List.append_eq_append_iff] at hbytes
    rcases hbytes with ⟨more, hchar, hrest⟩ | ⟨more, hchar, -⟩
    · cases more with
      | nil =>
        rw [List.append_nil] at hchar
        have hself := first?_encodeChar read.1 []
        rw [hchar, List.append_nil, h] at hself
        cases hself
      | cons d more =>
        -- a byte behind the first one of a character is no ASCII byte
        obtain ⟨lead, tails, hlead, -, htails⟩ := encodeChar_eq_cons read.1
        rw [List.cons_append, List.cons.injEq] at hrest
        rw [hlead, List.cons_append, List.cons.injEq] at hchar
        have hmem : c.toNat.toUInt8 ∈ tails := by
          rw [hchar.2, hrest.1]
          simp
        have htail := htails _ hmem
        rw [tail?_ascii hc] at htail
        cases htail
    · rw [hchar, first?_encodeChar] at h
      cases h

/-- An ASCII character belongs to no other character's bytes, so that bytes are read up to it and
behind it. -/
theorem decode_append_ascii {c : Char} (hc : c.toNat < 0x80) (a b : List UInt8) :
    decode (a ++ c.toNat.toUInt8 :: b) = decode a ++ some c :: decode b := by
  induction a using decode_induction with
  | nil =>
    rw [List.nil_append, ← List.singleton_append, ← encodeChar_of_lt hc, decode_encodeChar,
      decode_nil, List.nil_append]
  | char d r ih =>
    rw [List.append_assoc, decode_encodeChar, decode_encodeChar, ih, List.cons_append]
  | hole a r hfirst ih =>
    rw [List.cons_append, decode_hole (first?_append_ascii hc hfirst b), decode_hole hfirst, ih,
      List.cons_append]

@[simp] theorem lossy_nil : lossy [] = [] := by rw [lossy, decode_nil, List.map_nil]

theorem lossy_encodeChar (c : Char) (r : List UInt8) :
    lossy (encodeChar c ++ r) = c :: lossy r := by
  rw [lossy, decode_encodeChar, List.map_cons]
  rfl

theorem lossy_hole {a : UInt8} {r : List UInt8} (h : first? (a :: r) = none) :
    lossy (a :: r) = '\uFFFD' :: lossy r := by
  rw [lossy, decode_hole h, List.map_cons]
  rfl

theorem lossy_encode (t : Text) : lossy (encode t) = t := by
  induction t with
  | nil => rw [encode_nil, lossy_nil]
  | cons c t ih => rw [encode_cons, lossy_encodeChar, ih]

section Lossy

variable {c : Char} {bytes : List UInt8} {t : Text}

theorem lossy_append_ascii (hc : c.toNat < 0x80) (a b : List UInt8) :
    lossy (a ++ c.toNat.toUInt8 :: b) = lossy a ++ c :: lossy b := by
  rw [lossy, decode_append_ascii hc, List.map_append, List.map_cons]
  rfl

/-- Where no replacement character shows, all bytes belong to characters. -/
theorem eq_encode_of_lossy (h : lossy bytes = t) (ht : '\uFFFD' ∉ t) : bytes = encode t := by
  induction bytes using decode_induction generalizing t with
  | nil => rw [← h, lossy_nil, encode_nil]
  | char c r ih =>
    rw [lossy_encodeChar] at h
    subst h
    rw [encode_cons, ← ih rfl fun hmem => ht (List.mem_cons_of_mem c hmem)]
  | hole a r hfirst =>
    rw [lossy_hole hfirst] at h
    exact absurd (h ▸ List.mem_cons_self) ht

theorem replacement_mem_lossy (h : text? bytes = none) : '\uFFFD' ∈ lossy bytes := by
  by_cases hmem : '\uFFFD' ∈ lossy bytes
  · exact hmem
  · rw [eq_encode_of_lossy rfl hmem, text?_encode] at h
    cases h

theorem mem_of_mem_lossy (hc : c.toNat < 0x80) (h : c ∈ lossy bytes) :
    c.toNat.toUInt8 ∈ bytes := by
  induction bytes using decode_induction with
  | nil => simp at h
  | char d r ih =>
    rw [lossy_encodeChar, List.mem_cons] at h
    rw [List.mem_append]
    rcases h with rfl | h
    · left
      rw [encodeChar_of_lt hc]
      exact List.mem_singleton_self _
    · exact Or.inr (ih h)
  | hole a r hfirst ih =>
    rw [lossy_hole hfirst, List.mem_cons] at h
    rcases h with rfl | h
    · exact absurd hc (by decide)
    · exact List.mem_cons_of_mem a (ih h)

end Lossy

end Text.Utf8

end SchemaSheet
