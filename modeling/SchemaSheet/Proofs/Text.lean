import Mathlib.Data.List.TakeWhile
import SchemaSheet.Schema.Line

/-! Runs, trims and lines. A run of one class of characters ends where the class does, and no
character is both a word character and blank, so a cut at a blank is the only one there is. Lines
that hold no line feed are found again in the text that joins them. -/

namespace SchemaSheet

/-- The elements of a list, each with those before it. -/
def prefixed {α : Type} (xs : List α) : List (List α × α) :=
  xs.zipIdx.map fun x => (xs.take x.2, x.1)

@[simp] theorem prefixed_nil {α : Type} : prefixed ([] : List α) = [] := rfl

theorem prefixed_concat {α : Type} (xs : List α) (x : α) :
    prefixed (xs ++ [x]) = prefixed xs ++ [(xs, x)] := by
  unfold prefixed
  rw [List.zipIdx_append, List.map_append]
  congr 1
  · rw [List.map_inj_left]
    rintro ⟨y, i⟩ hy
    have hlt := (List.mem_zipIdx hy).2.1
    rw [List.take_append_of_le_length (by simp only; omega)]
  · simp

namespace Text

def blankCodes : List Nat :=
  List.range' 0x09 5 ++ [0x20, 0x85, 0xA0, 0x1680] ++ List.range' 0x2000 11 ++
    [0x2028, 0x2029, 0x202F, 0x205F, 0x3000]

theorem toNat_mem_blankCodes {c : Char} (h : isBlank c = true) : c.toNat ∈ blankCodes := by
  simp only [isBlank, Bool.or_eq_true, Bool.and_eq_true, decide_eq_true_eq, beq_iff_eq] at h
  simp only [blankCodes, List.mem_append, List.mem_range'_1, List.mem_cons, List.not_mem_nil]
  omega

theorem isWord_blankCodes : ∀ n ∈ blankCodes, isWord (Char.ofNat n) = false := by decide +kernel

theorem isWord_eq_false_of_isBlank {c : Char} (h : isBlank c = true) : isWord c = false := by
  have := isWord_blankCodes c.toNat (toNat_mem_blankCodes h)
  rwa [Char.ofNat_toNat] at this

theorem isBlank_eq_false_of_isWord {c : Char} (h : isWord c = true) : isBlank c = false := by
  cases hb : isBlank c
  · rfl
  · rw [isWord_eq_false_of_isBlank hb] at h
    cases h

theorem ne_of_isWord {c d : Char} (h : isWord c = true) (hd : isWord d = false) : c ≠ d := by
  rintro rfl
  rw [hd] at h
  cases h

/-- The text does not begin with a character of the class. -/
def Stops (p : Char → Bool) (t : Text) : Prop := ∀ c, t.head? = some c → p c = false

/-- A text that is not empty and of one class. -/
def IsRun (p : Char → Bool) (t : Text) : Prop := t ≠ [] ∧ ∀ c ∈ t, p c = true

instance (p : Char → Bool) (t : Text) : Decidable (IsRun p t) :=
  decidable_of_iff (t.isEmpty = false ∧ t.all p = true) (by simp [IsRun])

theorem IsRun.stops {p q : Char → Bool} {t : Text} (h : IsRun p t)
    (hpq : ∀ c, p c = true → q c = false) (r : Text) : Stops q (t ++ r) := by
  obtain ⟨c, t, rfl⟩ := List.exists_cons_of_ne_nil h.1
  intro d hd
  cases hd
  exact hpq c (h.2 c List.mem_cons_self)

theorem IsRun.not_mem {p : Char → Bool} {t : Text} (h : IsRun p t) {c : Char} (hc : p c = false) :
    c ∉ t := by
  intro hmem
  have := h.2 c hmem
  rw [hc] at this
  cases this

theorem stops_nil (p : Char → Bool) : Stops p [] := by
  intro c h
  cases h

theorem stops_cons {p : Char → Bool} {c : Char} {t : Text} (h : p c = false) :
    Stops p (c :: t) := by
  intro d hd
  cases hd
  exact h

theorem stops_of_prefix {p : Char → Bool} {s t : Text} (h : s <+: t) (ht : Stops p t) :
    Stops p s := by
  obtain ⟨r, rfl⟩ := h
  intro c hc
  apply ht
  rw [List.head?_append, hc]
  rfl

theorem stops_append {p : Char → Bool} {a b : Text} (ha : Stops p a) (hb : Stops p b) :
    Stops p (a ++ b) := by
  cases a with
  | nil => exact hb
  | cons c a => exact stops_cons (ha c rfl)

theorem takeWhile_append {p : Char → Bool} {a r : Text} (ha : ∀ c ∈ a, p c = true)
    (hr : Stops p r) : (a ++ r).takeWhile p = a := by
  rw [List.takeWhile_append_of_pos ha]
  cases r with
  | nil => simp
  | cons c r => simp [hr c rfl]

theorem dropWhile_append {p : Char → Bool} {a r : Text} (ha : ∀ c ∈ a, p c = true)
    (hr : Stops p r) : (a ++ r).dropWhile p = r := by
  rw [List.dropWhile_append_of_pos ha]
  cases r with
  | nil => rfl
  | cons c r => simp [hr c rfl]

theorem stops_dropWhile (p : Char → Bool) (t : Text) : Stops p (t.dropWhile p) := by
  intro c h
  have := List.head?_dropWhile_not p t
  rwa [h] at this

theorem trimStart_eq_self {t : Text} (h : Stops isBlank t) : trimStart t = t :=
  dropWhile_append (a := []) (by simp) h

theorem trimEnd_append_of_ne_nil (a : Text) {b : Text} (hb : b ≠ []) (h : trimEnd b = b) :
    trimEnd (a ++ b) = a ++ b := by
  unfold trimEnd at h ⊢
  rw [List.reverse_eq_iff] at h ⊢
  obtain ⟨c, r, hc⟩ := List.exists_cons_of_ne_nil (show b.reverse ≠ [] by simpa using hb)
  have hblank : isBlank c = false := by
    have hstop := stops_dropWhile isBlank b.reverse
    rw [h, hc] at hstop
    exact hstop c rfl
  rw [List.reverse_append, hc]
  simp [hblank]

theorem trimEnd_append {a b : Text} (ha : trimEnd a = a) (hb : trimEnd b = b) :
    trimEnd (a ++ b) = a ++ b := by
  by_cases h : b = []
  · rw [h, List.append_nil, ha]
  · exact trimEnd_append_of_ne_nil a h hb

theorem trimEnd_singleton {c : Char} (h : isBlank c = false) : trimEnd [c] = [c] := by
  simp [trimEnd, h]

theorem trimEnd_eq_self {t : Text} (h : ∀ c ∈ t, isBlank c = false) : trimEnd t = t := by
  induction t with
  | nil => rfl
  | cons c t ih =>
    have htail := ih fun d hd => h d (List.mem_cons_of_mem c hd)
    exact trimEnd_append (trimEnd_singleton (h c List.mem_cons_self)) htail

theorem trim_eq_self {t : Text} (hs : Stops isBlank t) (he : trimEnd t = t) : trim t = t := by
  rw [trim, trimStart_eq_self hs, he]

theorem length_trimEnd_le (t : Text) : (trimEnd t).length ≤ t.length := by
  unfold trimEnd
  rw [List.length_reverse]
  exact (List.dropWhile_sublist _).length_le.trans (by simp)

theorem trimStart_of_trim {t : Text} (h : trim t = t) : trimStart t = t := by
  have hlen := congrArg List.length h
  have he := length_trimEnd_le (trimStart t)
  rw [trim] at hlen
  exact (List.dropWhile_suffix _).eq_of_length_le (by unfold trimStart at he hlen; omega)

theorem trimEnd_of_trim {t : Text} (h : trim t = t) : trimEnd t = t := by
  rwa [trim, trimStart_of_trim h] at h

theorem trimEnd_eq_self_iff {t : Text} : trimEnd t = t ↔ Stops isBlank t.reverse := by
  unfold trimEnd
  rw [List.reverse_eq_iff]
  constructor
  · intro h
    rw [← h]
    exact stops_dropWhile isBlank t.reverse
  · intro h
    exact trimStart_eq_self h

theorem trimEnd_trimEnd (t : Text) : trimEnd (trimEnd t) = trimEnd t := by
  rw [trimEnd_eq_self_iff]
  have hreverse : (trimEnd t).reverse = t.reverse.dropWhile isBlank := List.reverse_reverse _
  rw [hreverse]
  exact stops_dropWhile isBlank t.reverse

/-- Whatever a text ends in that does not end in a blank does not either. -/
theorem trimEnd_of_suffix {s t : Text} (h : s <:+ t) (ht : trimEnd t = t) : trimEnd s = s := by
  rw [trimEnd_eq_self_iff] at ht ⊢
  exact stops_of_prefix (List.reverse_prefix.2 h) ht

theorem trimEnd_isPrefix (t : Text) : trimEnd t <+: t := by
  have h := List.reverse_prefix.2 (List.dropWhile_suffix isBlank (l := t.reverse))
  rwa [List.reverse_reverse] at h

theorem trimStart_isSuffix (t : Text) : trimStart t <:+ t := List.dropWhile_suffix isBlank

theorem trim_isInfix (t : Text) : trim t <:+: t :=
  (trimEnd_isPrefix (trimStart t)).isInfix.trans (trimStart_isSuffix t).isInfix

theorem trim_trim (t : Text) : trim (trim t) = trim t := by
  apply trim_eq_self _ (trimEnd_trimEnd _)
  exact stops_of_prefix (trimEnd_isPrefix _) (stops_dropWhile isBlank t)

theorem trimEnd_trim (t : Text) : trimEnd (trim t) = trim t := trimEnd_trimEnd (trimStart t)

/-- The end of a text that does not end in a blank stays its end when trimmed. -/
theorem trim_of_suffix {s t : Text} (h : s <:+ t) (ht : trimEnd t = t) : trim s <:+ t := by
  have hstart : trimStart s <:+ t := (trimStart_isSuffix s).trans h
  rw [trim, trimEnd_of_suffix hstart ht]
  exact hstart

theorem not_mem_of_infix {c : Char} {s t : Text} (h : s <:+: t) (ht : c ∉ t) : c ∉ s :=
  fun hs => ht (h.subset hs)

theorem pieces_of_not_mem {x : Char} {t : Text} (h : x ∉ t) : pieces x t = [t] := by
  induction t with
  | nil => rfl
  | cons c t ih =>
    rw [List.mem_cons, not_or] at h
    rw [pieces_cons, if_neg (Ne.symm h.1), ih h.2]
    rfl

theorem pieces_append_cons (x : Char) (s t : Text) :
    pieces x (s ++ x :: t) = pieces x s ++ pieces x t := by
  induction s with
  | nil => rw [List.nil_append, pieces_cons, if_pos rfl]; rfl
  | cons c s ih =>
    obtain ⟨p, ps, hp⟩ := List.exists_cons_of_ne_nil (pieces_ne_nil x s)
    rw [List.cons_append, pieces_cons, pieces_cons, ih, hp]
    split <;> rfl

theorem length_pieces (x : Char) (t : Text) : (pieces x t).length = t.count x + 1 := by
  induction t with
  | nil => rfl
  | cons c t ih =>
    obtain ⟨p, ps, hp⟩ := List.exists_cons_of_ne_nil (pieces_ne_nil x t)
    rw [hp, List.length_cons] at ih
    rw [pieces_cons, hp]
    by_cases hc : c = x
    · simp [hc, ih]
    · simp [hc, ih]

theorem joined_cons (gap t : Text) {ts : List Text} (h : ts ≠ []) :
    joined gap (t :: ts) = t ++ gap ++ joined gap ts := by
  obtain ⟨u, us, rfl⟩ := List.exists_cons_of_ne_nil h
  rfl

theorem joined_append {ps qs : List Text} (hp : ps ≠ []) (hq : qs ≠ []) (gap : Text) :
    joined gap (ps ++ qs) = joined gap ps ++ gap ++ joined gap qs := by
  induction ps with
  | nil => exact absurd rfl hp
  | cons p ps ih =>
    by_cases hps : ps = []
    · rw [hps, List.singleton_append, joined_cons gap p hq]
      rfl
    · have hne : ps ++ qs ≠ [] := List.append_ne_nil_of_left_ne_nil hps qs
      rw [List.cons_append, joined_cons gap p hne, joined_cons gap p hps, ih hps]
      simp

theorem prefix_joined (gap t : Text) (ts : List Text) : t <+: joined gap (t :: ts) := by
  by_cases h : ts = []
  · rw [h]
    exact List.prefix_refl _
  · rw [joined_cons gap t h, List.append_assoc]
    exact List.prefix_append _ _

theorem mul_length_le_joined (gap : Text) {ts : List Text} {k : Nat}
    (h : ∀ t ∈ ts, k ≤ t.length) : k * ts.length ≤ (joined gap ts).length := by
  induction ts with
  | nil => simp
  | cons t ts ih =>
    have ht := h t List.mem_cons_self
    by_cases hts : ts = []
    · simpa [hts, joined] using ht
    · have := ih fun u hu => h u (List.mem_cons_of_mem t hu)
      rw [joined_cons gap t hts, List.length_append, List.length_append, List.length_cons,
        Nat.mul_succ]
      omega

theorem not_mem_joined {x : Char} {gap : Text} (hgap : x ∉ gap) {ts : List Text}
    (h : ∀ t ∈ ts, x ∉ t) : x ∉ joined gap ts := by
  induction ts with
  | nil => exact List.not_mem_nil
  | cons t ts ih =>
    have ht := h t List.mem_cons_self
    by_cases hts : ts = []
    · rw [hts]
      exact ht
    · have hrest := ih fun u hu => h u (List.mem_cons_of_mem t hu)
      rw [joined_cons gap t hts, List.mem_append, List.mem_append, not_or, not_or]
      exact ⟨⟨ht, hgap⟩, hrest⟩

theorem pieces_joined {x : Char} {ps : List Text} (hne : ps ≠ []) (h : ∀ p ∈ ps, x ∉ p) :
    pieces x (joined [x] ps) = ps := by
  induction ps with
  | nil => exact absurd rfl hne
  | cons p ps ih =>
    have hp := h p List.mem_cons_self
    by_cases hps : ps = []
    · rw [hps]
      exact pieces_of_not_mem hp
    · rw [joined_cons [x] p hps, List.append_assoc, List.singleton_append, pieces_append_cons,
        pieces_of_not_mem hp, ih hps fun r hr => h r (List.mem_cons_of_mem p hr)]
      rfl

/-- Lines that are ended one by one are the lines of the text, with an empty one behind them. -/
theorem lines_flatMap_ended {ls : List Text} (h : ∀ l ∈ ls, '\n' ∉ l) :
    lines (ls.flatMap (· ++ ['\n'])) = ls ++ [[]] := by
  induction ls with
  | nil => rfl
  | cons l ls ih =>
    have hl := h l List.mem_cons_self
    rw [List.flatMap_cons, List.append_assoc, List.singleton_append, lines, pieces_append_cons,
      pieces_of_not_mem hl]
    have hrest := ih fun m hm => h m (List.mem_cons_of_mem l hm)
    rw [lines] at hrest
    rw [hrest]
    rfl

/-- The first of the places at which a text can be cut so that `p` holds of what is before and of
what is behind. -/
structure FirstCut (p : Text → Text → Prop) (t before behind : Text) : Prop where
  cut : t = before ++ behind
  holds : p before behind
  first : ∀ b r, t = b ++ r → p b r → before.length ≤ b.length

theorem FirstCut.unique {p : Text → Text → Prop} {t before behind before' behind' : Text}
    (h : FirstCut p t before behind) (h' : FirstCut p t before' behind') :
    before = before' ∧ behind = behind' := by
  have hlen : before.length = before'.length :=
    Nat.le_antisymm (h.first _ _ h'.cut h'.holds) (h'.first _ _ h.cut h.holds)
  exact List.append_inj (h.cut.symm.trans h'.cut) hlen

theorem firstCut_nil {p : Text → Text → Prop} {t : Text} (h : p [] t) : FirstCut p t [] t :=
  ⟨rfl, h, fun _ _ _ _ => Nat.zero_le _⟩

/-- A place behind the first character is the first one if there is none before it. -/
theorem FirstCut.cons {p : Text → Text → Prop} {c : Char} {t before behind : Text}
    (h : FirstCut (fun b => p (c :: b)) t before behind) (hc : ¬ p [] (c :: t)) :
    FirstCut p (c :: t) (c :: before) behind := by
  refine ⟨by rw [h.cut, List.cons_append], h.holds, fun b r hcut hp => ?_⟩
  cases b with
  | nil =>
    rw [List.nil_append] at hcut
    rw [← hcut] at hp
    exact absurd hp hc
  | cons d b =>
    rw [List.cons_append, List.cons.injEq] at hcut
    obtain ⟨rfl, hcut⟩ := hcut
    have := h.first b r hcut hp
    rw [List.length_cons, List.length_cons]
    omega

/-- A text is cut at its first character or behind it. -/
theorem exists_cut_cons {p : Text → Text → Prop} {c : Char} {t : Text} :
    (∃ b r, c :: t = b ++ r ∧ p b r) ↔ p [] (c :: t) ∨ ∃ b r, t = b ++ r ∧ p (c :: b) r := by
  constructor
  · rintro ⟨b, r, hcut, hp⟩
    cases b with
    | nil =>
      rw [List.nil_append] at hcut
      exact .inl (hcut ▸ hp)
    | cons d b =>
      rw [List.cons_append, List.cons.injEq] at hcut
      obtain ⟨rfl, hcut⟩ := hcut
      exact .inr ⟨b, r, hcut, hp⟩
  · rintro (hp | ⟨b, r, rfl, hp⟩)
    · exact ⟨[], c :: t, rfl, hp⟩
    · exact ⟨c :: b, r, rfl, hp⟩

end Text

namespace Line

open Text

theorem run?_append {p : Char → Bool} {a r : Text} (ha : IsRun p a) (hr : Stops p r) :
    run? p (a ++ r) = some (a, r) := by
  unfold run?
  rw [takeWhile_append ha.2 hr, dropWhile_append ha.2 hr]
  cases a with
  | nil => exact absurd rfl ha.1
  | cons c a => rfl

theorem run?_eq_some_iff {p : Char → Bool} {t a r : Text} :
    run? p t = some (a, r) ↔ t = a ++ r ∧ IsRun p a ∧ Stops p r := by
  constructor
  · intro h
    unfold run? at h
    split at h
    · cases h
    · next hne =>
      cases h
      exact ⟨List.takeWhile_append_dropWhile.symm, ⟨hne, fun c hc => List.mem_takeWhile_imp hc⟩,
        stops_dropWhile p t⟩
  · rintro ⟨rfl, ha, hr⟩
    exact run?_append ha hr

end Line

end SchemaSheet
