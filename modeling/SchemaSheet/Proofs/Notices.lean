import SchemaSheet.Proofs.Reading

/-! The notices of a schema, line by line. A line gives at most one, under its own number, so they
come in the order of the lines; the notice that a model is never closed stands behind them and goes
back to the line of the header. Each line that may declare a column is a column or is noticed. -/

namespace SchemaSheet

def Notice.isMalformed : Notice → Bool
  | .malformedField .. => true
  | _ => false

/-- A header is a column as well, so there is no second notice. -/
theorem Reader.complaints_eq (model : Text) (n : Nat) (line : Text) :
    complaints model n line = [] ∨ ∃ x, complaints model n line = [x] ∧ x.line = n := by
  unfold complaints
  cases hh : Line.header? line with
  | some name =>
    obtain ⟨c, hc⟩ := Option.isSome_iff_exists.1 (Line.column?_of_header? hh)
    rw [hc]
    exact Or.inr ⟨_, rfl, rfl⟩
  | none =>
    cases Line.column? line with
    | none => exact Or.inr ⟨_, rfl, rfl⟩
    | some c => exact Or.inl rfl

namespace Block

/-- Whether a line behind the lines of these blocks may declare a column. -/
def isCandidate (bs : List Block) (line : Text) : Bool :=
  (open? bs).isSome && !(Line.isClosing line || Line.isSkipped line)

/-- How many lines may declare a column. -/
def candidateCount (lines : List Text) : Nat :=
  (prefixed lines).countP fun (before, line) => isCandidate (split 1 before) line

/-- The notice that no brace comes after the last header. -/
def endNotices (lines : List Text) : List Notice :=
  match (split 1 lines).getLast? with
  | none => []
  | some b =>
    if (lines.drop b.opening).any Line.isClosing then [] else [.unterminated b.opening b.name]

def columnCount (bs : List Block) : Nat := (bs.flatMap (·.table.columns)).length

theorem candidateCount_concat (lines : List Text) (line : Text) :
    candidateCount (lines ++ [line]) =
      candidateCount lines + if isCandidate (split 1 lines) line then 1 else 0 := by
  simp [candidateCount, prefixed_concat, List.countP_cons]

theorem noticesAt_concat_of_open (init : List Block) {b : Block} (n : Nat) (line : Text)
    (hb : b.closed = false) :
    noticesAt (init ++ [b]) n line =
      if Line.isClosing line || Line.isSkipped line then []
      else Reader.complaints b.name n line := by
  simp [noticesAt, hb]

/-- A line gives at most one notice, which points at it. -/
theorem noticesAt_eq (bs : List Block) (n : Nat) (line : Text) :
    noticesAt bs n line = [] ∨ ∃ x, noticesAt bs n line = [x] ∧ x.line = n := by
  rcases grown_cases bs n line with ⟨ho, hh, -⟩ | ⟨name, ho, hh, -⟩ | ⟨init, b, rfl, hb, -⟩
  · left
    simp [noticesAt, ho, hh]
  · simp only [noticesAt, ho, hh]
    split
    · exact Or.inr ⟨_, rfl, rfl⟩
    · exact Or.inl rfl
  · rw [noticesAt_concat_of_open _ _ _ hb]
    split
    · exact Or.inl rfl
    · exact Reader.complaints_eq b.name n line

theorem line_of_mem_noticesAt {bs : List Block} {n : Nat} {line : Text} {x : Notice}
    (h : x ∈ noticesAt bs n line) : x.line = n := by
  rcases noticesAt_eq bs n line with hnil | ⟨y, hy, hn⟩
  · rw [hnil] at h
    cases h
  · rw [hy, List.mem_singleton] at h
    rw [h, hn]

theorem pairwise_noticesAt (bs : List Block) (n : Nat) (line : Text) :
    (noticesAt bs n line).Pairwise (·.line < ·.line) := by
  rcases noticesAt_eq bs n line with hnil | ⟨y, hy, -⟩
  · rw [hnil]
    exact List.Pairwise.nil
  · rw [hy]
    exact List.pairwise_singleton _ y

theorem line_of_mem_lineNotices {lines : List Text} {x : Notice} (h : x ∈ lineNotices lines) :
    1 ≤ x.line ∧ x.line ≤ lines.length := by
  induction lines using List.reverseRecOn with
  | nil => simp [lineNotices] at h
  | append_singleton lines line ih =>
    rw [lineNotices_concat, List.mem_append] at h
    rw [List.length_append, List.length_singleton]
    rcases h with h | h
    · have := ih h
      omega
    · have := line_of_mem_noticesAt h
      omega

theorem pairwise_lineNotices (lines : List Text) :
    (lineNotices lines).Pairwise (·.line < ·.line) := by
  induction lines using List.reverseRecOn with
  | nil => simp [lineNotices]
  | append_singleton lines line ih =>
    rw [lineNotices_concat]
    refine List.pairwise_append.2 ⟨ih, pairwise_noticesAt _ _ _, ?_⟩
    intro x hx y hy
    have := (line_of_mem_lineNotices hx).2
    have := line_of_mem_noticesAt hy
    omega

theorem filter_line_lineNotices (before : List Text) (line : Text) (after : List Text) :
    (lineNotices (before ++ line :: after)).filter (·.line == before.length + 1) =
      noticesAt (split 1 before) (before.length + 1) line := by
  induction after using List.reverseRecOn with
  | nil =>
    rw [lineNotices_concat, List.filter_append, List.filter_eq_nil_iff.2, List.filter_eq_self.2,
      List.nil_append]
    · intro x hx
      exact beq_iff_eq.2 (line_of_mem_noticesAt hx)
    · intro x hx hline
      have := (line_of_mem_lineNotices hx).2
      have := beq_iff_eq.1 hline
      omega
  | append_singleton after last ih =>
    rw [← List.cons_append, ← List.append_assoc, lineNotices_concat, List.filter_append, ih,
      List.filter_eq_nil_iff.2, List.append_nil]
    intro x hx hline
    have hlast := line_of_mem_noticesAt hx
    rw [List.length_append, List.length_cons] at hlast
    have := beq_iff_eq.1 hline
    omega

/-- The only notice that points at the header of an open model is that its name is taken. -/
theorem eq_duplicate_of_line_eq {lines : List Text} {b : Block} {x : Notice}
    (hb : open? (split 1 lines) = some b) (hx : x ∈ lineNotices lines)
    (hline : x.line = b.opening) : x = .duplicate b.opening b.name := by
  induction lines using List.reverseRecOn generalizing b with
  | nil => simp at hb
  | append_singleton lines line ih =>
    rw [lineNotices_concat, List.mem_append] at hx
    rw [split_concat] at hb
    rcases grown_cases (split 1 lines) (1 + lines.length) line with
      ⟨ho, -, hg⟩ | ⟨name, ho, hh, hg⟩ | ⟨init, c, hbs, hc, hg⟩
    · rw [hg, ho] at hb
      cases hb
    · rw [hg, open?_concat, if_neg (by simp), Option.some.injEq] at hb
      subst hb
      rcases hx with hx | hx
      · have := (line_of_mem_lineNotices hx).2
        simp only at hline
        omega
      · simp only [noticesAt, ho, hh] at hx
        split at hx
        · rw [List.mem_singleton] at hx
          rw [hx, Nat.add_comm]
        · cases hx
    · rw [hg, open?_concat] at hb
      split at hb
      · cases hb
      · rw [Option.some.injEq] at hb
        subst hb
        rw [opening_extended] at hline ⊢
        rw [name_extended]
        have ho : open? (split 1 lines) = some c := by
          rw [hbs, open?_concat, hc, if_neg Bool.false_ne_true]
        -- a line behind the header has a greater number
        rcases hx with hx | hx
        · exact ih ho hx hline
        · have hlt := (opening_of_mem_split (hbs ▸ List.mem_append_right init
            (List.mem_singleton_self c))).2
          have := line_of_mem_noticesAt hx
          omega

/-- A line that may declare a column becomes one or is noticed. -/
theorem columnCount_grown (bs : List Block) (n : Nat) (line : Text) :
    columnCount (grown bs n line) + (noticesAt bs n line).countP Notice.isMalformed =
      columnCount bs + if isCandidate bs line then 1 else 0 := by
  rcases grown_cases bs n line with ⟨ho, hh, hg⟩ | ⟨name, ho, hh, hg⟩ | ⟨init, b, rfl, hb, hg⟩
  · rw [hg]
    simp [noticesAt, isCandidate, ho, hh]
  · rw [hg]
    simp only [noticesAt, ho, hh]
    split <;> simp [isCandidate, columnCount, ho, table, candidates, Notice.isMalformed]
  · rw [hg, noticesAt_concat_of_open _ _ _ hb]
    have hcand : isCandidate (init ++ [b]) line =
        !(Line.isClosing line || Line.isSkipped line) := by
      simp [isCandidate, hb]
    rw [hcand]
    simp only [columnCount, List.flatMap_append, List.flatMap_singleton, table_extended]
    cases Line.isClosing line || Line.isSkipped line with
    | true => simp
    | false =>
      have hnested : ((Line.header? line).toList.map (Notice.nestedHeader n b.name ·)).countP
          Notice.isMalformed = 0 := by
        cases Line.header? line <;> rfl
      rw [if_neg Bool.false_ne_true, if_neg Bool.false_ne_true, Reader.complaints,
        List.countP_append, hnested]
      cases Line.column? line with
      | none => simp [Notice.isMalformed]
      | some c =>
        simp
        omega

theorem candidateCount_eq (lines : List Text) :
    candidateCount lines =
      columnCount (split 1 lines) + (lineNotices lines).countP Notice.isMalformed := by
  induction lines using List.reverseRecOn with
  | nil => simp [candidateCount, columnCount, lineNotices]
  | append_singleton lines line ih =>
    have hstep := columnCount_grown (split 1 lines) (1 + lines.length) line
    rw [candidateCount_concat, ih, split_concat, lineNotices_concat, List.countP_append,
      Nat.add_comm lines.length 1]
    omega

theorem unterminated_split (lines : List Text) :
    unterminated (split 1 lines) = endNotices lines := by
  unfold unterminated endNotices open?
  cases h : (split 1 lines).getLast? with
  | none => rfl
  | some b =>
    simp only
    rw [← closed_getLast h]
    cases hb : b.closed <;> simp [hb]

/-- What the last notice goes with on its line. -/
theorem duplicate_of_unterminated {lines : List Text} {x y : Notice} (hx : x ∈ lineNotices lines)
    (hy : y ∈ unterminated (split 1 lines)) (h : x.line = y.line) :
    ∃ n name, x = .duplicate n name ∧ y = .unterminated n name := by
  unfold unterminated at hy
  obtain ⟨b, hb, rfl⟩ := List.mem_map.1 hy
  rw [Option.mem_toList] at hb
  exact ⟨b.opening, b.name, eq_duplicate_of_line_eq hb hx h, rfl⟩

theorem isMalformed_unterminated (bs : List Block) :
    (unterminated bs).countP Notice.isMalformed = 0 := by
  rw [List.countP_eq_zero]
  intro x hx
  obtain ⟨b, -, rfl⟩ := List.mem_map.1 hx
  exact Bool.false_ne_true

theorem line_of_mem_unterminated {lines : List Text} {x : Notice}
    (h : x ∈ unterminated (split 1 lines)) : 1 ≤ x.line ∧ x.line ≤ lines.length := by
  obtain ⟨b, hb, rfl⟩ := List.mem_map.1 h
  rw [Option.mem_toList] at hb
  obtain ⟨hbs, -⟩ := eq_concat_of_open? hb
  have hmem : b ∈ split 1 lines := by
    rw [hbs]
    simp
  have := opening_of_mem_split hmem
  simp only [Notice.line]
  omega

theorem pairwise_unterminated (bs : List Block) (R : Notice → Notice → Prop) :
    (unterminated bs).Pairwise R := by
  unfold unterminated
  cases open? bs with
  | none => exact List.Pairwise.nil
  | some b => exact List.pairwise_singleton R _

end Block

open Block

/-- The notices of a schema are those of its lines, in order, and that of its end. The tables that a
repeated name is looked for in are the first ones of the result. Each candidate is a column or is
noticed; two notices share a line only where the last model has a taken name and no end. -/
theorem Reading.notices_ofText (schema : Text) :
    let lines := schema.trimmedLines
    let r := Reading.ofText schema
    r.notices = lineNotices lines ++ endNotices lines ∧
    (∀ i, open? (split 1 (lines.take i)) = none →
      (split 1 (lines.take i)).map Block.table <+: r.tables) ∧
    (∀ b ∈ split 1 lines, ∃ line,
      lines[b.opening - 1]? = some line ∧ Line.header? line = some b.name) ∧
    candidateCount lines =
      (r.tables.flatMap (·.columns)).length + r.notices.countP Notice.isMalformed ∧
    r.notices.Pairwise (fun x y => x.line = y.line →
      ∃ n name, x = .duplicate n name ∧ y = .unterminated n name) ∧
    (lineNotices lines).Pairwise (·.line < ·.line) ∧
    ∀ x ∈ r.notices, 1 ≤ x.line ∧ x.line ≤ lines.length := by
  intro lines r
  have hr : r = ⟨(split 1 lines).map Block.table, lineNotices lines ++ unterminated (split 1 lines),
      (split 1 lines).flatMap fun b => b.table.record b.opening⟩ := ofText_eq schema
  rw [hr]
  refine ⟨by rw [unterminated_split], ?_, fun b hb => header?_opening hb, ?_, ?_,
    pairwise_lineNotices lines, ?_⟩
  · intro i hi
    have happ := split_append 1 hi (lines.drop i)
    rw [List.take_append_drop] at happ
    rw [happ, List.map_append]
    exact List.prefix_append _ _
  · rw [candidateCount_eq, List.countP_append, isMalformed_unterminated,
      List.flatMap_map]
    rfl
  · refine List.pairwise_append.2 ⟨?_, pairwise_unterminated _ _, ?_⟩
    · exact (pairwise_lineNotices lines).imp fun hlt heq => absurd heq hlt.ne
    · intro x hx y hy
      exact duplicate_of_unterminated hx hy
  · intro x hx
    rcases List.mem_append.1 hx with hx | hx
    · exact line_of_mem_lineNotices hx
    · exact line_of_mem_unterminated hx

end SchemaSheet
