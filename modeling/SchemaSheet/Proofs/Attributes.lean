import SchemaSheet.Proofs.Text
import SchemaSheet.Schema.Attributes

/-! The four scans of an attribute text, over a text put together from parts. Markers and defaults
begin with an at sign, so a part without one is passed over; a balanced text leaves the count of
parentheses and the state of string literals as they were. What the scans find in any text is a
slice of it. -/

namespace SchemaSheet

/-- What stands between the quotes of a string literal: a backslash takes the next character
along. -/
inductive Quoted : Text → Prop
  | nil : Quoted []
  | plain {c : Char} {t : Text} (hq : c ≠ '"') (hb : c ≠ '\\') : Quoted t → Quoted (c :: t)
  | escape (c : Char) {t : Text} : Quoted t → Quoted ('\\' :: c :: t)

/-- A text whose string literals end and whose parentheses outside of them match. -/
inductive Balanced : Text → Prop
  | nil : Balanced []
  | plain {c : Char} {t : Text} (hq : c ≠ '"') (ho : c ≠ '(') (hc : c ≠ ')') :
    Balanced t → Balanced (c :: t)
  | literal {s t : Text} : Quoted s → Balanced t → Balanced ('"' :: (s ++ '"' :: t))
  | group {s t : Text} : Balanced s → Balanced t → Balanced ('(' :: (s ++ ')' :: t))

theorem Quoted.after {s : Text} (h : Quoted s) : Literal.inside.after s = .inside := by
  induction h with
  | nil => rfl
  | plain hq hb _ ih => simpa [Literal.next, hq, hb] using ih
  | escape c _ ih => simpa [Literal.next] using ih

theorem Balanced.after {t : Text} (h : Balanced t) : Literal.outside.after t = .outside := by
  induction h with
  | nil => rfl
  | plain hq _ _ _ ih => simpa [Literal.next, hq] using ih
  | literal hs _ ih => simpa [Literal.next, hs.after] using ih
  | group _ _ ihs iht => simpa [Literal.next, ihs] using iht

namespace Attributes

open Text

/-- What follows the first double slash outside a literal, looked for character by character. -/
def comment? : Literal → Text → Option Text
  | _, [] => none
  | l, c :: cs =>
    match (if l = .outside then after? "//".toList (c :: cs) else none) with
    | some rest => some rest
    | none => comment? (l.next c) cs

theorem enclosed?_inside {s : Text} (h : Quoted s) (depth : Nat) (r : Text) :
    enclosed? .inside depth (s ++ '"' :: r) =
      (enclosed? .outside depth r).map (s ++ '"' :: ·) := by
  induction h with
  | nil => simp [enclosed?, Literal.next]
  | plain hq hb _ ih =>
    simp [enclosed?, Literal.next, hq, hb, ih, Option.map_map, Function.comp_def]
  | escape c _ ih => simp [enclosed?, Literal.next, ih, Option.map_map, Function.comp_def]

theorem enclosed?_of_ne {c : Char} (ho : c ≠ '(') (hc : c ≠ ')') (depth : Nat) (t : Text) :
    enclosed? .outside depth (c :: t) =
      (enclosed? (Literal.outside.next c) depth t).map (c :: ·) := by
  simp [enclosed?, ho, hc]

theorem enclosed?_opening (depth : Nat) (t : Text) :
    enclosed? .outside depth ('(' :: t) =
      (enclosed? .outside (depth + 1) t).map ('(' :: ·) := by
  simp [enclosed?]

theorem enclosed?_closing (depth : Nat) (t : Text) :
    enclosed? .outside (depth + 1) (')' :: t) =
      (enclosed? .outside depth t).map (')' :: ·) := by
  simp [enclosed?]

/-- A balanced text is taken whole, with no parenthesis more or less open behind it. -/
theorem enclosed?_append {s : Text} (h : Balanced s) (depth : Nat) (r : Text) :
    enclosed? .outside depth (s ++ r) = (enclosed? .outside depth r).map (s ++ ·) := by
  induction h generalizing depth r with
  | nil => simp
  | plain hq ho hc _ ih =>
    rw [List.cons_append, enclosed?_of_ne ho hc, Literal.next, if_neg hq, ih]
    simp [Option.map_map, Function.comp_def]
  | literal hs _ ih =>
    rw [List.cons_append, enclosed?_of_ne (by decide) (by decide), Literal.next, if_pos rfl,
      List.append_assoc, List.cons_append, enclosed?_inside hs, ih]
    simp [Option.map_map, Function.comp_def]
  | @group s t _ _ ihs iht =>
    rw [List.cons_append, enclosed?_opening, List.append_assoc, List.cons_append, ihs,
      enclosed?_closing, iht]
    simp [Option.map_map, Function.comp_def]

theorem argument_append {v : Text} (h : Balanced v) (r : Text) : argument (v ++ ')' :: r) = v := by
  rw [argument, enclosed?_append h, enclosed?]
  simp

theorem marked_cons_of_ne {c : Char} (h : c ≠ '@') (m t : Text) :
    marked ('@' :: m) (c :: t) = marked ('@' :: m) t := by
  rw [marked, after?, if_neg h.symm]
  rfl

theorem marked_append {s : Text} (h : '@' ∉ s) (m t : Text) :
    marked ('@' :: m) (s ++ t) = marked ('@' :: m) t := by
  induction s with
  | nil => rfl
  | cons c s ih =>
    rw [List.mem_cons, not_or] at h
    rw [List.cons_append, marked_cons_of_ne (Ne.symm h.1), ih h.2]

theorem marked_of_not_mem {t : Text} (h : '@' ∉ t) (m : Text) : marked ('@' :: m) t = false := by
  have := marked_append h m []
  rwa [List.append_nil] at this

theorem default?_cons_of_ne {c : Char} (h : c ≠ '@') (t : Text) :
    default? (c :: t) = default? t := by
  have hopened : opened? (c :: t) = none := by
    have hafter : after? "@default".toList (c :: t) = none := by
      rw [show "@default".toList = '@' :: "default".toList by rfl, after?, if_neg h.symm]
    rw [opened?, hafter]
    rfl
  rw [default?, hopened]
  rfl

theorem default?_append {s : Text} (h : '@' ∉ s) (t : Text) :
    default? (s ++ t) = default? t := by
  induction s with
  | nil => rfl
  | cons c s ih =>
    rw [List.mem_cons, not_or] at h
    rw [List.cons_append, default?_cons_of_ne (Ne.symm h.1), ih h.2]

theorem default?_of_not_mem {t : Text} (h : '@' ∉ t) : default? t = none := by
  have := default?_append h []
  rwa [List.append_nil] at this

theorem comment?_cons_of_ne {c : Char} (h : c ≠ '/') (l : Literal) (t : Text) :
    comment? l (c :: t) = comment? (l.next c) t := by
  have hafter : after? "//".toList (c :: t) = none := by
    rw [show "//".toList = ['/', '/'] by rfl, after?, if_neg h.symm]
  rw [comment?, hafter, ite_self]

theorem comment?_of_not_mem {s : Text} (h : '/' ∉ s) (l : Literal) (t : Text) :
    comment? l (s ++ t) = comment? (l.after s) t := by
  induction s generalizing l with
  | nil => rfl
  | cons c s ih =>
    rw [List.mem_cons, not_or] at h
    rw [List.cons_append, comment?_cons_of_ne (Ne.symm h.1), ih h.2]
    rfl

/-- A part in which no comment begins is passed over, if none begins where it ends. -/
theorem comment?_append {s : Text} {l : Literal}
    (h : ∀ p r, s = p ++ '/' :: '/' :: r → l.after p ≠ .outside) {t : Text}
    (ht : t.head? ≠ some '/') : comment? l (s ++ t) = comment? (l.after s) t := by
  induction s generalizing l with
  | nil => rfl
  | cons c s ih =>
    have hnone : (if l = .outside then after? "//".toList (c :: (s ++ t)) else none) = none := by
      by_cases hl : l = .outside
      · rw [if_pos hl]
        cases hafter : after? "//".toList (c :: (s ++ t)) with
        | none => rfl
        | some r =>
          have hcut : c :: (s ++ t) = '/' :: '/' :: r := eq_append_of_after? hafter
          rw [List.cons.injEq] at hcut
          cases s with
          | nil =>
            rw [List.nil_append] at hcut
            rw [hcut.2] at ht
            exact absurd rfl ht
          | cons d s =>
            rw [List.cons_append, List.cons.injEq] at hcut
            exact absurd hl (h [] s (by rw [hcut.1, hcut.2.1]; rfl))
      · rw [if_neg hl]
    rw [List.cons_append, comment?, hnone]
    exact ih fun p r hs => h (c :: p) r (by rw [hs]; rfl)

/-- No comment begins in a text if and only if each of its double slashes is in a literal. -/
theorem comment?_eq_none_iff {l : Literal} {t : Text} :
    comment? l t = none ↔ ∀ p r, t = p ++ '/' :: '/' :: r → l.after p ≠ .outside := by
  constructor
  · intro h p r ht hl
    subst ht
    induction p generalizing l with
    | nil =>
      cases hl
      simp [comment?, after?] at h
    | cons c p ih =>
      rw [List.cons_append, comment?] at h
      split at h
      · cases h
      · exact ih hl h
  · intro h
    have := comment?_append h (t := []) (by simp)
    rw [List.append_nil] at this
    rw [this, comment?]

theorem suffix_of_comment? {l : Literal} {t r : Text} (h : comment? l t = some r) : r <:+ t := by
  induction t generalizing l with
  | nil => cases h
  | cons c t ih =>
    rw [comment?] at h
    split at h
    · next rest hrest =>
      cases h
      split at hrest
      · exact ⟨"//".toList, (eq_append_of_after? hrest).symm⟩
      · cases hrest
    · exact (ih h).trans (List.suffix_cons c t)

theorem suffix_of_opened? {t r : Text} (h : opened? t = some r) : r <:+ t := by
  simp only [opened?, Option.bind_eq_bind, Option.bind_eq_some_iff] at h
  obtain ⟨rest, hrest, hr⟩ := h
  have hmarker : rest <:+ t := ⟨_, (eq_append_of_after? hrest).symm⟩
  have hopening : r <:+ trimStart rest := ⟨_, (eq_append_of_after? hr).symm⟩
  exact hopening.trans ((trimStart_isSuffix rest).trans hmarker)

theorem suffix_of_default? {t r : Text} (h : default? t = some r) : r <:+ t := by
  induction t with
  | nil => cases h
  | cons c t ih =>
    rw [default?] at h
    cases hopened : opened? (c :: t) with
    | some body =>
      rw [hopened] at h
      cases h
      exact suffix_of_opened? hopened
    | none =>
      rw [hopened] at h
      exact (ih h).trans (List.suffix_cons c t)

theorem prefix_of_enclosed? {l : Literal} {depth : Nat} {t r : Text}
    (h : enclosed? l depth t = some r) : r <+: t := by
  -- every character is kept, up to the parenthesis where the text ends
  have hkeep {l : Literal} {depth : Nat} {c : Char} {t r : Text}
      (ih : ∀ {r}, enclosed? l depth t = some r → r <+: t)
      (h : (enclosed? l depth t).map (c :: ·) = some r) : r <+: c :: t := by
    obtain ⟨s, hs, rfl⟩ := Option.map_eq_some_iff.1 h
    exact (List.prefix_cons_inj c).2 (ih hs)
  fun_induction enclosed? l depth t generalizing r with
  | case1 => cases h
  | case2 t =>
    cases h
    exact List.nil_prefix
  | case3 t depth ih => exact hkeep ih h
  | case4 depth t _ ih => exact hkeep ih h
  | case5 depth c t _ _ ih => exact hkeep ih h
  | case6 l depth c t _ ih => exact hkeep ih h

theorem argument_isPrefix (body : Text) : argument body <+: body := by
  unfold argument
  cases h : enclosed? .outside 0 body with
  | some r => exact prefix_of_enclosed? h
  | none => exact trimEnd_isPrefix body

theorem defaultValue_isInfix (t : Text) : (ofText t).defaultValue <:+: t := by
  unfold ofText
  cases h : default? t with
  | none => exact List.nil_infix
  | some body =>
    exact (argument_isPrefix body).isInfix.trans (suffix_of_default? h).isInfix

end Attributes

end SchemaSheet
