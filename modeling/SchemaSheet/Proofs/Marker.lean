import SchemaSheet.Proofs.Attributes

/-! Markers. One counts wherever it stands, in literals and in comments too, unless a word goes on
behind it. It is an at sign and a word, so it never lies across a place where a text is cut in front
of something that is in no word: a text has a marker if and only if one of its two parts has it. All
other words behind at signs can be left out. -/

namespace SchemaSheet

open Text

namespace Attributes

/-- The marker stands somewhere in the text, and no word goes on behind it. -/
def Occurs (marker t : Text) : Prop :=
  ∃ before behind, t = before ++ (marker ++ behind) ∧ Stops isWord behind

/-- Words behind at signs, each with what stands between it and the next one. -/
def atWords (words : List (Text × Text)) : Text := words.flatMap fun x => '@' :: (x.1 ++ x.2)

/-- A word, perhaps empty, and something that neither goes on with it nor holds an at sign. -/
structure IsAtWord (x : Text × Text) : Prop where
  word : ∀ c ∈ x.1, isWord c = true
  word_end : Stops isWord x.2
  no_at : '@' ∉ x.2

theorem atWordEnd_iff {t : Text} : atWordEnd t = true ↔ Stops isWord t := by
  cases t with
  | nil => exact iff_of_true rfl (stops_nil _)
  | cons c t => simp [atWordEnd, Stops]

theorem marked_eq_true_iff {marker t : Text} (hne : marker ≠ []) :
    marked marker t = true ↔ Occurs marker t := by
  induction t with
  | nil => simp [marked, Occurs, hne]
  | cons c t ih =>
    rw [marked, Bool.or_eq_true, ih, Option.any_eq_true]
    constructor
    · rintro (⟨behind, hbehind, hend⟩ | ⟨before, behind, rfl, hend⟩)
      · have hcut : c :: t = marker ++ behind := eq_append_of_after? hbehind
        exact ⟨[], behind, hcut, atWordEnd_iff.1 hend⟩
      · exact ⟨c :: before, behind, rfl, hend⟩
    · rintro ⟨before, behind, hcut, hend⟩
      cases before with
      | nil => exact .inl ⟨behind, after?_eq_some_iff.2 hcut, atWordEnd_iff.2 hend⟩
      | cons d before =>
        rw [List.cons_append, List.cons.injEq] at hcut
        exact .inr ⟨before, behind, hcut.2, hend⟩

variable {w : Text}

theorem occurs_append_iff (hw : ∀ c ∈ w, isWord c = true) {a b : Text} (hb : Stops isWord b) :
    Occurs ('@' :: w) (a ++ b) ↔ Occurs ('@' :: w) a ∨ Occurs ('@' :: w) b := by
  constructor
  · rintro ⟨before, behind, hcut, hend⟩
    rcases List.append_eq_append_iff.1 hcut with ⟨s, -, rfl⟩ | ⟨s, rfl, hs⟩
    · exact .inr ⟨s, behind, rfl, hend⟩
    rcases List.append_eq_append_iff.1 hs with ⟨u, rfl, rfl⟩ | ⟨v, hmarker, rfl⟩
    · exact .inl ⟨before, u, rfl, stops_of_prefix (List.prefix_append u b) hend⟩
    -- the marker begins in front of the cut, so what is left of it behind is part of its word
    cases s with
    | nil =>
      rw [List.nil_append] at hmarker
      exact .inr ⟨[], behind, by rw [← hmarker]; rfl, hend⟩
    | cons d s =>
      rw [List.cons_append, List.cons.injEq] at hmarker
      obtain ⟨rfl, rfl⟩ := hmarker
      cases v with
      | nil => exact .inl ⟨before, [], by simp, stops_nil _⟩
      | cons e v =>
        have hword := hw e (List.mem_append_right s List.mem_cons_self)
        rw [hb e rfl] at hword
        cases hword
  · rintro (⟨before, behind, rfl, hend⟩ | ⟨before, behind, rfl, hend⟩)
    · exact ⟨before, behind ++ b, by simp, stops_append hend hb⟩
    · exact ⟨a ++ before, behind, by simp, hend⟩

theorem marked_append_of_stops (hw : ∀ c ∈ w, isWord c = true) {a b : Text}
    (hb : Stops isWord b) :
    marked ('@' :: w) (a ++ b) = (marked ('@' :: w) a || marked ('@' :: w) b) := by
  rw [Bool.eq_iff_iff, Bool.or_eq_true]
  simp only [marked_eq_true_iff (List.cons_ne_nil _ _)]
  exact occurs_append_iff hw hb

/-- An at sign and a word are no marker but the one that they spell. -/
theorem marked_atWord {v : Text} (hv : ∀ c ∈ v, isWord c = true) (hne : v ≠ w) :
    marked ('@' :: w) ('@' :: v) = false := by
  rw [Bool.eq_false_iff, ne_eq, marked_eq_true_iff (List.cons_ne_nil _ _)]
  rintro ⟨before, behind, hcut, hend⟩
  cases before with
  | nil =>
    have hcut : v = w ++ behind := (List.cons.inj hcut).2
    cases behind with
    | nil => exact hne (by rw [hcut, List.append_nil])
    | cons d behind =>
      have hword := hv d (by simp [hcut])
      rw [hend d rfl] at hword
      cases hword
  | cons d before =>
    have hcut : v = before ++ ('@' :: w ++ behind) := (List.cons.inj hcut).2
    have hat : isWord '@' = true := hv '@' (by simp [hcut])
    exact absurd hat (by decide)

theorem stops_atWords_append {p : Char → Bool} (hp : p '@' = false) {b : Text} (hb : Stops p b)
    (words : List (Text × Text)) : Stops p (atWords words ++ b) := by
  cases words with
  | nil => exact hb
  | cons x words => exact stops_cons hp

/-- Other words behind at signs can be left out, however many they are. -/
theorem marked_atWords_append (hw : ∀ c ∈ w, isWord c = true) {words : List (Text × Text)}
    (h : ∀ x ∈ words, IsAtWord x) (hne : ∀ x ∈ words, x.1 ≠ w) {b : Text}
    (hb : Stops isWord b) : marked ('@' :: w) (atWords words ++ b) = marked ('@' :: w) b := by
  induction words with
  | nil => rfl
  | cons x words ih =>
    have hx := h x List.mem_cons_self
    have hrest := ih (fun y hy => h y (List.mem_cons_of_mem x hy))
      (fun y hy => hne y (List.mem_cons_of_mem x hy))
    have hstops : Stops isWord (atWords words ++ b) := stops_atWords_append (by decide) hb words
    calc marked ('@' :: w) (atWords (x :: words) ++ b)
      _ = marked ('@' :: w) ('@' :: x.1 ++ (x.2 ++ (atWords words ++ b))) := by simp [atWords]
      _ = marked ('@' :: w) (x.2 ++ (atWords words ++ b)) := by
        rw [marked_append_of_stops hw (stops_append hx.word_end hstops),
          marked_atWord hx.word (hne x List.mem_cons_self), Bool.false_or]
      _ = marked ('@' :: w) b := by rw [marked_append hx.no_at, hrest]

theorem isWord_of_mem_id : ∀ c ∈ "id".toList, isWord c = true := List.all_eq_true.1 (by decide)

theorem isWord_of_mem_unique : ∀ c ∈ "unique".toList, isWord c = true :=
  List.all_eq_true.1 (by decide)

/-- A text is marked as a primary key, or as unique, if and only if the marker stands in it with no
word going on behind it. So each flag of a text that is cut in front of no word is that of one of
its parts; and words behind at signs that are not the marker, longer ones included, change nothing,
whatever number of them comes before it. -/
theorem flags_iff_occurs (t : Text) :
    ((ofText t).primaryKey = true ↔ Occurs "@id".toList t) ∧
    ((ofText t).unique = true ↔ Occurs "@unique".toList t) ∧
    (∀ a b, Stops isWord b →
      (ofText (a ++ b)).primaryKey = ((ofText a).primaryKey || (ofText b).primaryKey) ∧
      (ofText (a ++ b)).unique = ((ofText a).unique || (ofText b).unique)) ∧
    ∀ words b, (∀ x ∈ words, IsAtWord x) → Stops isWord b →
      ((∀ x ∈ words, x.1 ≠ "id".toList) →
        (ofText (atWords words ++ b)).primaryKey = (ofText b).primaryKey) ∧
      ((∀ x ∈ words, x.1 ≠ "unique".toList) →
        (ofText (atWords words ++ b)).unique = (ofText b).unique) := by
  refine ⟨marked_eq_true_iff (by decide), marked_eq_true_iff (by decide), fun a b hb => ?_,
    fun words b h hb => ⟨fun hne => ?_, fun hne => ?_⟩⟩
  · exact ⟨marked_append_of_stops isWord_of_mem_id hb,
      marked_append_of_stops isWord_of_mem_unique hb⟩
  · exact marked_atWords_append isWord_of_mem_id h hne hb
  · exact marked_atWords_append isWord_of_mem_unique h hne hb

/-- Longer words and a lone at sign come before the one marker, which is cut off in front of a
parenthesis. -/
theorem flags_iff_occurs_longer :
    let words : List (Text × Text) :=
      [("identity".toList, []), ("idé".toList, " \"".toList), ([], "-".toList)]
    (∀ x ∈ words, IsAtWord x) ∧ (∀ x ∈ words, x.1 ≠ "id".toList) ∧
    (ofText (atWords words)).primaryKey = false ∧
    (ofText (atWords words ++ "@id(".toList)).primaryKey = true ∧
    Occurs "@id".toList (atWords words ++ "@id(".toList) := by
  intro words
  have hwords : ∀ x ∈ words, IsAtWord x := by
    intro x hx
    simp only [words, List.mem_cons, List.not_mem_nil, or_false] at hx
    rcases hx with rfl | rfl | rfl
    · exact ⟨List.all_eq_true.1 (by decide), stops_nil _, by decide⟩
    · exact ⟨List.all_eq_true.1 (by decide +kernel), stops_cons (by decide), by decide⟩
    · exact ⟨List.all_eq_true.1 rfl, stops_cons (by decide), by decide⟩
  have hne : ∀ x ∈ words, x.1 ≠ "id".toList := by decide
  obtain ⟨-, -, -, hleft⟩ := flags_iff_occurs []
  have hnone := (hleft words [] hwords (stops_nil _)).1 hne
  rw [List.append_nil] at hnone
  have hfound := (hleft words "@id(".toList hwords (stops_cons (by decide))).1 hne
  exact ⟨hwords, hne, hnone, hfound, (flags_iff_occurs _).1.1 hfound⟩

end Attributes

end SchemaSheet
