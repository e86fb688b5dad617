import SchemaSheet.Proofs.Attributes

/-! The default of a column against a grammar. The scan for the parenthesis that closes a default
counts those that are open, and a text leaves it as it was if and only if it is balanced. So the
argument is the one balanced text that a closing parenthesis follows, and if there is none, the scan
runs to the end; in neither case does the count fall below zero. -/

namespace SchemaSheet

namespace Attributes

open Text

/-- What a character does to the scan: where it stands behind it with respect to literals, and how
many parentheses are open there. Nothing if it closes one that is not open. -/
def step? : Literal × Nat → Char → Option (Literal × Nat)
  | (.outside, depth), c =>
    if c = ')' then
      match depth with
      | 0 => none
      | d + 1 => some (.outside, d)
    else if c = '(' then some (.outside, depth + 1)
    else some (Literal.outside.next c, depth)
  | (l, depth), c => some (l.next c, depth)

/-- Where the scan stands behind a text. -/
def scan? (s : Literal × Nat) (t : Text) : Option (Literal × Nat) := t.foldlM step? s

/-- The text is `@default` and an opening parenthesis, perhaps with blanks in between, and then
`body`. -/
def Opens (t body : Text) : Prop :=
  ∃ gap, (∀ c ∈ gap, isBlank c = true) ∧ t = "@default".toList ++ (gap ++ '(' :: body)

/-- `body` stands behind the first of the places in a text where a default opens. -/
def OpensFirst (t body : Text) : Prop :=
  ∃ before rest, FirstCut (fun _ r => ∃ b, Opens r b) t before rest ∧ Opens rest body

theorem step?_closing (depth : Nat) : step? (.outside, depth + 1) ')' = some (.outside, depth) := by
  simp [step?]

theorem step?_opening (depth : Nat) : step? (.outside, depth) '(' = some (.outside, depth + 1) := by
  simp [step?]

theorem step?_of_ne {c : Char} (ho : c ≠ '(') (hc : c ≠ ')') (depth : Nat) :
    step? (.outside, depth) c = some (Literal.outside.next c, depth) := by
  simp [step?, ho, hc]

theorem step?_eq_none_iff {s : Literal × Nat} {c : Char} :
    step? s c = none ↔ s = (.outside, 0) ∧ c = ')' := by
  obtain ⟨l, depth⟩ := s
  cases l with
  | outside =>
    cases depth with
    | zero => by_cases hc : c = ')' <;> by_cases ho : c = '(' <;> simp [step?, hc, ho]
    | succ d => by_cases hc : c = ')' <;> by_cases ho : c = '(' <;> simp [step?, hc, ho]
  | inside => simp [step?]
  | escaped => simp [step?]

/-- The scan keeps every character up to the one that it cannot step over. -/
theorem enclosed?_cons (s : Literal × Nat) (c : Char) (t : Text) :
    enclosed? s.1 s.2 (c :: t) =
      match step? s c with
      | none => some []
      | some s' => (enclosed? s'.1 s'.2 t).map (c :: ·) := by
  obtain ⟨l, depth⟩ := s
  cases l with
  | outside =>
    by_cases hc : c = ')'
    · subst hc
      cases depth with
      | zero => rfl
      | succ d => rw [enclosed?_closing, step?_closing]
    · by_cases ho : c = '('
      · subst ho
        rw [enclosed?_opening, step?_opening]
      · rw [enclosed?_of_ne ho hc, step?_of_ne ho hc]
  | inside => rfl
  | escaped => rfl

theorem scan?_cons (s : Literal × Nat) (c : Char) (t : Text) :
    scan? s (c :: t) = (step? s c).bind (scan? · t) := List.foldlM_cons

theorem isSome_scan?_of_isPrefix {s : Literal × Nat} {p t : Text} (h : p <+: t)
    (ht : (scan? s t).isSome = true) : (scan? s p).isSome = true := by
  obtain ⟨r, rfl⟩ := h
  have happend : scan? s (p ++ r) = (scan? s p).bind (scan? · r) := List.foldlM_append
  rw [happend] at ht
  exact Option.isSome_of_isSome_bind ht

/-- Behind a text that it comes through, the scan goes on from where it stands. -/
theorem enclosed?_of_scan? {s s' : Literal × Nat} {p : Text} (h : scan? s p = some s') (t : Text) :
    enclosed? s.1 s.2 (p ++ t) = (enclosed? s'.1 s'.2 t).map (p ++ ·) := by
  induction p generalizing s with
  | nil =>
    cases h
    simp
  | cons c p ih =>
    rw [scan?_cons, Option.bind_eq_some_iff] at h
    obtain ⟨u, hu, hp⟩ := h
    rw [List.cons_append, enclosed?_cons, hu]
    simp only [ih hp, Option.map_map]
    rfl

/-- The scan stops at a parenthesis that closes none before it. -/
theorem enclosed?_eq_some_iff {s : Literal × Nat} {t v : Text} :
    enclosed? s.1 s.2 t = some v ↔ (∃ r, t = v ++ ')' :: r) ∧ scan? s v = some (.outside, 0) := by
  constructor
  · intro h
    induction t generalizing s v with
    | nil => simp [enclosed?] at h
    | cons c t ih =>
      rw [enclosed?_cons] at h
      cases hstep : step? s c with
      | none =>
        obtain ⟨rfl, rfl⟩ := step?_eq_none_iff.1 hstep
        rw [hstep] at h
        cases h
        exact ⟨⟨t, rfl⟩, rfl⟩
      | some u =>
        rw [hstep] at h
        obtain ⟨w, hw, rfl⟩ := Option.map_eq_some_iff.1 h
        obtain ⟨⟨r, rfl⟩, hscan⟩ := ih hw
        exact ⟨⟨r, rfl⟩, by rw [scan?_cons, hstep, Option.bind_some, hscan]⟩
  · rintro ⟨⟨r, rfl⟩, hscan⟩
    rw [enclosed?_of_scan? hscan]
    simp [enclosed?]

theorem enclosed?_eq_none_iff {s : Literal × Nat} {t : Text} :
    enclosed? s.1 s.2 t = none ↔ (scan? s t).isSome = true := by
  induction t generalizing s with
  | nil => simp [enclosed?, scan?]
  | cons c t ih =>
    rw [enclosed?_cons, scan?_cons]
    cases step? s c with
    | none => simp
    | some u => simp [ih]

end Attributes

/-- A text with so many groups open before it, each of which it closes. -/
inductive Closing : Nat → Text → Prop
  | last {t : Text} : Balanced t → Closing 0 t
  | next {d : Nat} {s t : Text} : Balanced s → Closing d t → Closing (d + 1) (s ++ ')' :: t)

namespace Closing

variable {d : Nat} {t : Text}

theorem plain {c : Char} (hq : c ≠ '"') (ho : c ≠ '(') (hc : c ≠ ')') (h : Closing d t) :
    Closing d (c :: t) := by
  cases h with
  | last ht => exact .last (.plain hq ho hc ht)
  | next hs ht => exact .next (.plain hq ho hc hs) ht

theorem literal {q : Text} (hq : Quoted q) (h : Closing d t) :
    Closing d ('"' :: (q ++ '"' :: t)) := by
  cases h with
  | last ht => exact .last (.literal hq ht)
  | @next d s t hs ht =>
    have := Closing.next (.literal hq hs) ht
    simpa using this

theorem group (h : Closing (d + 1) t) : Closing d ('(' :: t) := by
  cases h with
  | @next _ s t hs ht =>
    cases ht with
    | last ht => exact .last (.group hs ht)
    | @next d u t hu ht =>
      have := Closing.next (.group hs hu) ht
      simpa using this

end Closing

namespace Attributes

open Text

/-- What a text is like behind which the scan is outside literals and nothing is open. -/
def Completes (d : Nat) (t : Text) : Literal → Prop
  | .outside => Closing d t
  | .inside => ∃ q u, Quoted q ∧ t = q ++ '"' :: u ∧ Closing d u
  | .escaped => ∃ c q u, Quoted q ∧ t = c :: (q ++ '"' :: u) ∧ Closing d u

theorem completes_of_scan? {s : Literal × Nat} {t : Text} (h : scan? s t = some (.outside, 0)) :
    Completes s.2 t s.1 := by
  -- read from its end, the text gains one constructor of the grammar with each character
  induction t generalizing s with
  | nil =>
    cases h
    exact .last .nil
  | cons c t ih =>
    rw [scan?_cons, Option.bind_eq_some_iff] at h
    obtain ⟨u, hu, ht⟩ := h
    have hrest := ih ht
    obtain ⟨l, depth⟩ := s
    cases l with
    | outside =>
      by_cases hc : c = ')'
      · subst hc
        cases depth with
        | zero => cases hu
        | succ d =>
          rw [step?_closing] at hu
          cases hu
          exact .next .nil hrest
      · by_cases ho : c = '('
        · subst ho
          rw [step?_opening] at hu
          cases hu
          exact Closing.group hrest
        · rw [step?_of_ne ho hc] at hu
          cases hu
          by_cases hq : c = '"'
          · subst hq
            obtain ⟨q, u, hquoted, rfl, hu⟩ := hrest
            exact Closing.literal hquoted hu
          · rw [Literal.next, if_neg hq] at hrest
            exact Closing.plain hq ho hc hrest
    | inside =>
      cases hu
      by_cases hb : c = '\\'
      · subst hb
        obtain ⟨d, q, u, hquoted, rfl, hu⟩ := hrest
        exact ⟨'\\' :: d :: q, u, .escape d hquoted, rfl, hu⟩
      · by_cases hq : c = '"'
        · subst hq
          exact ⟨[], t, .nil, rfl, hrest⟩
        · rw [Literal.next, if_neg hb, if_neg hq] at hrest
          obtain ⟨q, u, hquoted, rfl, hu⟩ := hrest
          exact ⟨c :: q, u, .plain hq hb hquoted, rfl, hu⟩
    | escaped =>
      cases hu
      obtain ⟨q, u, hquoted, rfl, hu⟩ := hrest
      exact ⟨c, q, u, hquoted, rfl, hu⟩

/-- The balanced texts are those that leave the scan as it was. -/
theorem balanced_iff {t : Text} : Balanced t ↔ scan? (.outside, 0) t = some (.outside, 0) := by
  constructor
  · intro h
    have hscan : enclosed? .outside 0 (t ++ [')']) = some t := by
      rw [enclosed?_append h]
      simp [enclosed?]
    exact (enclosed?_eq_some_iff.1 hscan).2
  · intro h
    -- with no group open before it, closing all of them is being balanced
    have hclosing : Closing 0 t := completes_of_scan? h
    cases hclosing with
    | last ht => exact ht

theorem enclosed?_outside_eq_none_iff {body : Text} :
    enclosed? .outside 0 body = none ↔ ¬ ∃ v r, Balanced v ∧ body = v ++ ')' :: r := by
  rw [Option.eq_none_iff_forall_ne_some, not_exists]
  refine forall_congr' fun v => not_congr ?_
  rw [enclosed?_eq_some_iff (s := (.outside, 0)), balanced_iff, and_comm, exists_and_left]

/-- The scan comes through a text: it closes no parenthesis that is not open, and goes on behind it
with the count that it leaves. -/
def Passes (p : Text) : Prop :=
  ∃ l depth, scan? (.outside, 0) p = some (l, depth) ∧
    ∀ r, enclosed? .outside 0 (p ++ r) = (enclosed? l depth r).map (p ++ ·)

theorem passes_of_isPrefix {p t : Text} (h : p <+: t)
    (ht : (scan? (.outside, 0) t).isSome = true) : Passes p := by
  obtain ⟨⟨l, depth⟩, hscan⟩ := Option.isSome_iff_exists.1 (isSome_scan?_of_isPrefix h ht)
  exact ⟨l, depth, hscan, enclosed?_of_scan? hscan⟩

theorem opened?_eq_some_iff {t body : Text} : opened? t = some body ↔ Opens t body := by
  simp only [opened?, Option.bind_eq_bind, Option.bind_eq_some_iff, after?_eq_some_iff]
  constructor
  · rintro ⟨rest, rfl, hrest⟩
    refine ⟨rest.takeWhile isBlank, fun c hc => List.mem_takeWhile_imp hc, ?_⟩
    have hcut : rest.takeWhile isBlank ++ '(' :: body = rest := by
      have : trimStart rest = '(' :: body := hrest
      rw [← this]
      exact List.takeWhile_append_dropWhile
    rw [hcut]
  · rintro ⟨gap, hgap, rfl⟩
    exact ⟨gap ++ '(' :: body, rfl, dropWhile_append hgap (stops_cons (by decide))⟩

theorem opened?_eq_none_iff {t : Text} : opened? t = none ↔ ¬ ∃ body, Opens t body := by
  rw [Option.eq_none_iff_forall_ne_some, not_exists]
  exact forall_congr' fun body => not_congr opened?_eq_some_iff

theorem default?_eq_none_iff {t : Text} :
    default? t = none ↔ ¬ ∃ before rest, t = before ++ rest ∧ ∃ body, Opens rest body := by
  induction t with
  | nil =>
    refine iff_of_true rfl ?_
    rintro ⟨before, rest, h, hrest⟩
    rw [(List.append_eq_nil_iff.1 h.symm).2] at hrest
    exact opened?_eq_none_iff.1 rfl hrest
  | cons c t ih =>
    rw [exists_cut_cons (p := fun _ r => ∃ b, Opens r b), not_or, ← opened?_eq_none_iff, ← ih,
      default?]
    cases opened? (c :: t) <;> simp

theorem opensFirst_of_default? {t body : Text} (h : default? t = some body) :
    OpensFirst t body := by
  induction t with
  | nil => cases h
  | cons c t ih =>
    rw [default?] at h
    cases hopened : opened? (c :: t) with
    | some found =>
      rw [hopened] at h
      cases h
      have hopens := opened?_eq_some_iff.1 hopened
      exact ⟨[], c :: t, firstCut_nil ⟨_, hopens⟩, hopens⟩
    | none =>
      rw [hopened] at h
      obtain ⟨before, rest, hcut, hopens⟩ := ih h
      exact ⟨c :: before, rest, hcut.cons (opened?_eq_none_iff.1 hopened), hopens⟩

theorem OpensFirst.unique {t b b' : Text} (h : OpensFirst t b) (h' : OpensFirst t b') :
    b = b' := by
  obtain ⟨p, r, hcut, hr⟩ := h
  obtain ⟨p', r', hcut', hr'⟩ := h'
  obtain ⟨-, rfl⟩ := hcut.unique hcut'
  rw [← opened?_eq_some_iff] at hr hr'
  rw [hr, Option.some.injEq] at hr'
  exact hr'

/-- What follows the first of the places where a default opens is looked at. -/
theorem default?_eq_some_iff {t body : Text} : default? t = some body ↔ OpensFirst t body := by
  refine ⟨opensFirst_of_default?, fun h => ?_⟩
  cases hfound : default? t with
  | none =>
    obtain ⟨before, rest, hcut, hrest⟩ := h
    exact absurd ⟨before, rest, hcut.cut, body, hrest⟩ (default?_eq_none_iff.1 hfound)
  | some found => rw [(opensFirst_of_default? hfound).unique h]

/-- The default of a text. There is none if nothing opens one. Else it is the balanced text that a
closing parenthesis follows behind the first place where one opens; if there is no such text, it is
all that follows that place, without the blanks at its end. -/
theorem default_argument_balanced (t : Text) :
    ((default? t).map argument = none ↔
      ¬ ∃ before rest, t = before ++ rest ∧ ∃ body, Opens rest body) ∧
    ((∃ before rest, t = before ++ rest ∧ ∃ body, Opens rest body) →
      ∃ body, OpensFirst t body) ∧
    ∀ body, OpensFirst t body →
      (∀ v r, Balanced v → body = v ++ ')' :: r →
        (default? t).map argument = some v ∧
        (∀ w s, Balanced w → body = w ++ ')' :: s → w = v) ∧
        ∀ p, p <+: v → Passes p) ∧
      ((¬ ∃ v r, Balanced v ∧ body = v ++ ')' :: r) →
        (default? t).map argument = some (trimEnd body) ∧
        ∀ p, p <+: body → Passes p) := by
  refine ⟨Option.map_eq_none_iff.trans default?_eq_none_iff, fun h => ?_, fun body hbody => ?_⟩
  · cases hfound : default? t with
    | none => exact absurd h (default?_eq_none_iff.1 hfound)
    | some body => exact ⟨body, default?_eq_some_iff.1 hfound⟩
  rw [default?_eq_some_iff.2 hbody, Option.map_some]
  constructor
  · rintro v r hv rfl
    refine ⟨congrArg some (argument_append hv r), ?_, ?_⟩
    · intro w s hw hcut
      rw [← argument_append hv r, hcut, argument_append hw s]
    · intro p hp
      exact passes_of_isPrefix hp (by rw [balanced_iff.1 hv]; rfl)
  · intro h
    have hopen : enclosed? .outside 0 body = none := enclosed?_outside_eq_none_iff.2 h
    refine ⟨by rw [argument, hopen]; rfl, fun p hp => ?_⟩
    exact passes_of_isPrefix hp (enclosed?_eq_none_iff.1 hopen)

/-- Parentheses in a literal do not count, and a quote that is never closed takes all of them. -/
theorem default_argument_balanced_literal :
    (default? "@id @default (f(\")\\\"\", 1) ) @unique".toList).map argument =
        some "f(\")\\\"\", 1) ".toList ∧
      (default? "@default(f(\")\\\", 1) ".toList).map argument =
        some "f(\")\\\", 1)".toList := by
  have hclosed : OpensFirst "@id @default (f(\")\\\"\", 1) ) @unique".toList
      "f(\")\\\"\", 1) ) @unique".toList := default?_eq_some_iff.1 (by decide)
  have hbalanced : Balanced "f(\")\\\"\", 1) ".toList := balanced_iff.2 (by decide)
  have hopen : OpensFirst "@default(f(\")\\\", 1) ".toList
      "f(\")\\\", 1) ".toList := default?_eq_some_iff.1 (by decide)
  have hnever : ¬ ∃ v r, Balanced v ∧ "f(\")\\\", 1) ".toList = v ++ ')' :: r :=
    enclosed?_outside_eq_none_iff.1 (by decide)
  exact ⟨((((default_argument_balanced _).2.2 _ hclosed).1 _ " @unique".toList hbalanced rfl).1),
    (((default_argument_balanced _).2.2 _ hopen).2 hnever).1⟩

end Attributes

end SchemaSheet
