import SchemaSheet.Proofs.Prefix

/-! Two schemas one after the other, the first of which ends outside of a model. The blocks of the
second one are found behind those of the first, further down, so that tables and notices are those
of the two. Only whether a name is taken depends on what came before. -/

namespace SchemaSheet

open Text

namespace Notice

def isDuplicate : Notice → Bool
  | .duplicate .. => true
  | _ => false

@[simp] theorem isDuplicate_renumbered (f : Nat → Nat) (x : Notice) :
    (x.renumbered f).isDuplicate = x.isDuplicate := by
  cases x <;> rfl

end Notice

theorem Reader.isDuplicate_of_mem_complaints {model : Text} {n : Nat} {line : Text} {x : Notice}
    (h : x ∈ complaints model n line) : x.isDuplicate = false := by
  rcases List.mem_append.1 h with h | h
  · obtain ⟨name, -, rfl⟩ := List.mem_map.1 h
    rfl
  · split at h
    · rw [List.mem_singleton] at h
      rw [h]
      rfl
    · cases h

namespace Block

def shifted (k : Nat) (b : Block) : Block := { b with opening := b.opening + k }

@[simp] theorem opening_shifted (k : Nat) (b : Block) : (b.shifted k).opening = b.opening + k := rfl

@[simp] theorem name_shifted (k : Nat) (b : Block) : (b.shifted k).name = b.name := rfl

@[simp] theorem table_shifted (k : Nat) (b : Block) : (b.shifted k).table = b.table := rfl

theorem extended_shifted (k : Nat) (b : Block) (line : Text) :
    (b.shifted k).extended line = (b.extended line).shifted k := by
  unfold extended
  split <;> rfl

theorem open?_map_shifted (k : Nat) (bs : List Block) :
    open? (bs.map (shifted k)) = (open? bs).map (shifted k) := by
  cases bs using List.reverseRecOn with
  | nil => rfl
  | append_singleton bs b =>
    rw [List.map_append, List.map_singleton, open?_concat, open?_concat]
    cases hb : b.closed <;> simp [shifted, hb]

theorem grown_map_shifted (k : Nat) (bs : List Block) (n : Nat) (line : Text) :
    grown (bs.map (shifted k)) (n + k) line = (grown bs n line).map (shifted k) := by
  unfold grown
  rw [open?_map_shifted]
  cases open? bs with
  | none => cases Line.header? line <;> simp [shifted]
  | some b => simp [extended_shifted]

/-- Where the lines are counted from does not matter to the blocks. -/
theorem split_add (k n : Nat) (lines : List Text) :
    split (n + k) lines = (split n lines).map (shifted k) := by
  induction lines using List.reverseRecOn with
  | nil => simp
  | append_singleton lines line ih =>
    rw [split_concat, split_concat, ih, Nat.add_right_comm, grown_map_shifted]

/-- Behind lines that leave no block open, the blocks of further lines come further down. -/
theorem split_append_eq {before : List Text} (h : open? (split 1 before) = none)
    (after : List Text) :
    split 1 (before ++ after) =
      split 1 before ++ (split 1 after).map (shifted before.length) := by
  rw [split_append 1 h, split_add]

/-- The notices of blocks whose name is known already or is that of an earlier one. -/
def repeats (known : List Text) (bs : List Block) : List Notice :=
  (prefixed bs).flatMap fun (before, b) =>
    if b.name ∈ known ++ before.map (·.name) then [.duplicate b.opening b.name] else []

theorem repeats_concat (known : List Text) (bs : List Block) (b : Block) :
    repeats known (bs ++ [b]) = repeats known bs ++
      if b.name ∈ known ++ bs.map (·.name) then [.duplicate b.opening b.name] else [] := by
  simp [repeats, prefixed_concat]

theorem repeats_append (known : List Text) (bs cs : List Block) :
    repeats known (bs ++ cs) = repeats known bs ++ repeats (known ++ bs.map (·.name)) cs := by
  induction cs using List.reverseRecOn with
  | nil => simp [repeats]
  | append_singleton cs c ih =>
    rw [← List.append_assoc, repeats_concat, ih, repeats_concat, List.map_append,
      List.append_assoc, List.append_assoc]

theorem exists_of_mem_repeats {known : List Text} {bs : List Block} {x : Notice}
    (h : x ∈ repeats known bs) : ∃ b ∈ bs, x = .duplicate b.opening b.name := by
  induction bs using List.reverseRecOn with
  | nil => cases h
  | append_singleton bs b ih =>
    rw [repeats_concat, List.mem_append] at h
    rcases h with h | h
    · obtain ⟨c, hc, hx⟩ := ih h
      exact ⟨c, List.mem_append_left _ hc, hx⟩
    · split at h
      · exact ⟨b, List.mem_append_right _ (List.mem_singleton_self b), List.mem_singleton.1 h⟩
      · cases h

/-- Among the notices of lines, names that are taken are told where a block with the name opens. -/
theorem filter_isDuplicate_lineNotices (lines : List Text) :
    (lineNotices lines).filter Notice.isDuplicate = repeats [] (split 1 lines) := by
  induction lines using List.reverseRecOn with
  | nil => simp [lineNotices, repeats]
  | append_singleton lines line ih =>
    rw [lineNotices_concat, List.filter_append, ih, split_concat, Nat.add_comm lines.length]
    rcases grown_cases (split 1 lines) (1 + lines.length) line with
      ⟨ho, hh, hg⟩ | ⟨name, ho, hh, hg⟩ | ⟨init, b, hbs, hb, hg⟩
    · simp [hg, noticesAt, ho, hh]
    · rw [hg, repeats_concat]
      by_cases hname : ∃ b ∈ split 1 lines, b.name = name
      · simp [noticesAt, ho, hh, hname, Notice.isDuplicate]
      · simp [noticesAt, ho, hh, hname]
    · -- the line goes to a block that has its name already
      have hnone : (noticesAt (init ++ [b]) (1 + lines.length) line).filter Notice.isDuplicate =
          [] := by
        rw [List.filter_eq_nil_iff]
        intro x hx
        simp only [noticesAt, open?_concat, hb, Bool.false_eq_true, if_false] at hx
        split at hx
        · cases hx
        · simp [Reader.isDuplicate_of_mem_complaints hx]
      rw [hg, hbs, hnone, List.append_nil, repeats_concat, repeats_concat, opening_extended,
        name_extended]

/-- Apart from taken names, what a line leads to depends on the open block only. -/
theorem filter_noticesAt_shifted {before : List Block} (h : open? before = none) (k : Nat)
    (bs : List Block) (n : Nat) (line : Text) :
    (noticesAt (before ++ bs.map (shifted k)) (n + k) line).filter (!·.isDuplicate) =
      ((noticesAt bs n line).filter (!·.isDuplicate)).map (Notice.renumbered (· + k)) := by
  unfold noticesAt
  rw [open?_append_of_none h, open?_map_shifted]
  cases open? bs with
  | none =>
    cases Line.header? line with
    | none => rfl
    | some name =>
      have hnil (p : Bool) (m : Nat) : (if p = true then [Notice.duplicate m name] else []).filter
          (!·.isDuplicate) = [] := by
        cases p <;> rfl
      simp only [Option.map_none, hnil, List.map_nil]
  | some b =>
    simp only [Option.map_some, name_shifted]
    split
    · rfl
    · rw [Reader.complaints_renumbered (· + k), List.filter_map]
      congr 2
      funext x
      simp

theorem filter_lineNotices_append {before : List Text} (h : open? (split 1 before) = none)
    (after : List Text) :
    (lineNotices (before ++ after)).filter (!·.isDuplicate) =
      (lineNotices before).filter (!·.isDuplicate) ++
        ((lineNotices after).filter (!·.isDuplicate)).map
          (Notice.renumbered (· + before.length)) := by
  induction after using List.reverseRecOn with
  | nil => simp [lineNotices]
  | append_singleton after line ih =>
    have hlen : (before ++ after).length + 1 = after.length + 1 + before.length := by
      rw [List.length_append]
      omega
    rw [← List.append_assoc, lineNotices_concat, List.filter_append, ih, lineNotices_concat,
      List.filter_append, List.map_append, split_append_eq h, hlen, filter_noticesAt_shifted h,
      List.append_assoc]

theorem unterminated_append {before : List Block} (h : open? before = none) (k : Nat)
    (bs : List Block) :
    unterminated (before ++ bs.map (shifted k)) =
      (unterminated bs).map (Notice.renumbered (· + k)) := by
  unfold unterminated
  rw [open?_append_of_none h, open?_map_shifted]
  cases open? bs <;> rfl

theorem isDuplicate_of_mem_unterminated {bs : List Block} {x : Notice} (h : x ∈ unterminated bs) :
    x.isDuplicate = false := by
  obtain ⟨b, -, rfl⟩ := List.mem_map.1 h
  rfl

end Block

open Block

theorem Reading.others_ofText_append {s : Text} (t : Text)
    (h : open? (split 1 s.trimmedLines) = none) :
    (ofText (s ++ '\n' :: t)).notices.filter (!·.isDuplicate) =
      (ofText s).notices.filter (!·.isDuplicate) ++
        ((ofText t).notices.filter (!·.isDuplicate)).map
          (Notice.renumbered (· + s.trimmedLines.length)) := by
  have hkeep (bs : List Block) : (unterminated bs).filter (!·.isDuplicate) = unterminated bs := by
    rw [List.filter_eq_self]
    intro x hx
    rw [isDuplicate_of_mem_unterminated hx]
    rfl
  have hs : unterminated (split 1 s.trimmedLines) = [] := by
    rw [unterminated, h]
    rfl
  simp only [ofText_eq, trimmedLines_append, List.filter_append, hkeep, hs, List.append_nil,
    List.map_append]
  rw [filter_lineNotices_append h, split_append_eq h, unterminated_append h, List.append_assoc]

theorem Reading.duplicates_ofText_append {s : Text} (t : Text)
    (h : open? (split 1 s.trimmedLines) = none) :
    (ofText (s ++ '\n' :: t)).notices.filter
        (fun x => x.isDuplicate && decide (s.trimmedLines.length < x.line)) =
      repeats ((ofText s).tables.map (·.name))
        ((split 1 t.trimmedLines).map (shifted s.trimmedLines.length)) := by
  have hend (bs : List Block) : (unterminated bs).filter Notice.isDuplicate = [] := by
    rw [List.filter_eq_nil_iff]
    intro x hx
    simp [isDuplicate_of_mem_unterminated hx]
  have hnames : (ofText s).tables.map (·.name) = (split 1 s.trimmedLines).map (·.name) := by
    rw [ofText_eq, List.map_map]
    rfl
  have hall : (ofText (s ++ '\n' :: t)).notices.filter Notice.isDuplicate =
      repeats [] (split 1 s.trimmedLines) ++ repeats ((split 1 s.trimmedLines).map (·.name))
        ((split 1 t.trimmedLines).map (shifted s.trimmedLines.length)) := by
    rw [ofText_eq, List.filter_append, hend, List.append_nil, filter_isDuplicate_lineNotices,
      trimmedLines_append, split_append_eq h, repeats_append, List.nil_append]
  -- the headers of the first schema stand above the line feed, those of the second below it
  have hfirst : (repeats [] (split 1 s.trimmedLines)).filter
      (fun x => decide (s.trimmedLines.length < x.line)) = [] := by
    rw [List.filter_eq_nil_iff]
    intro x hx
    obtain ⟨b, hb, rfl⟩ := exists_of_mem_repeats hx
    have hlt : b.opening ≤ s.trimmedLines.length := by
      have := (opening_of_mem_split hb).2
      omega
    exact mt of_decide_eq_true (Nat.not_lt.2 hlt)
  have hsecond (known : List Text) : (repeats known
      ((split 1 t.trimmedLines).map (shifted s.trimmedLines.length))).filter
        (fun x => decide (s.trimmedLines.length < x.line)) =
      repeats known ((split 1 t.trimmedLines).map (shifted s.trimmedLines.length)) := by
    rw [List.filter_eq_self]
    intro x hx
    obtain ⟨b, hb, rfl⟩ := exists_of_mem_repeats hx
    obtain ⟨c, hc, rfl⟩ := List.mem_map.1 hb
    have hlt : 0 < c.opening := (opening_of_mem_split hc).1
    exact decide_eq_true (Nat.lt_add_of_pos_left hlt)
  have hcomm : (fun x : Notice => x.isDuplicate && decide (s.trimmedLines.length < x.line)) =
      fun x => decide (s.trimmedLines.length < x.line) && x.isDuplicate := by
    funext x
    exact Bool.and_comm _ _
  rw [hcomm, ← List.filter_filter, hall, hnames, List.filter_append, hfirst, hsecond,
    List.nil_append]

/-- Two schemas, a line feed between them, of which the first one closes its models: the tables are
those of both, and so are the notices, the lines of the second counted behind those of the first.
Only the notices of names that are taken are new: below the first schema they are told exactly at
the headers of those blocks of the second whose name an earlier block has or a table of the
first. -/
theorem Reading.ofText_concatenation {s : Text} (h : (ofText s).endsInside = false) (t : Text) :
    let whole := ofText (s ++ '\n' :: t)
    let k := s.count '\n' + 1
    let blocks := split 1 t.trimmedLines
    whole.tables = (ofText s).tables ++ (ofText t).tables ∧
    whole.notices.filter (!·.isDuplicate) = (ofText s).notices.filter (!·.isDuplicate) ++
      ((ofText t).notices.filter (!·.isDuplicate)).map (Notice.renumbered (· + k)) ∧
    whole.notices.filter (fun x => x.isDuplicate && decide (k < x.line)) =
      repeats ((ofText s).tables.map (·.name)) (blocks.map (shifted k)) ∧
    (ofText t).tables = blocks.map Block.table ∧
    ∀ b ∈ blocks, ∃ line,
      t.trimmedLines[b.opening - 1]? = some line ∧ Line.header? line = some b.name := by
  rw [endsInside_ofText, Option.isSome_eq_false_iff, Option.isNone_iff_eq_none] at h
  intro whole k blocks
  have hk : s.trimmedLines.length = k := length_trimmedLines s
  refine ⟨?_, hk ▸ others_ofText_append t h, hk ▸ duplicates_ofText_append t h, ?_,
    fun b hb => header?_opening hb⟩
  · simp only [whole, ofText_eq, trimmedLines_append, split_append_eq h, List.map_append,
      List.map_map]
    rfl
  · rw [ofText_eq]

/-- A name that the first schema has, met in the second one, which leaves its model open. -/
theorem Reading.ofText_concatenation_repeated :
    let s := "model A \x7b\n?\n\x7d".toList
    let t := "\nmodel A \x7b".toList
    (ofText s).endsInside = false ∧
    (ofText (s ++ '\n' :: t)).tables = (ofText s).tables ++ (ofText t).tables ∧
    (ofText (s ++ '\n' :: t)).notices =
      [.malformedField 2 ['A'] ['?'], .duplicate 5 ['A'], .unterminated 5 ['A']] := by
  intro s t
  have h : (ofText s).endsInside = false := by decide +kernel
  exact ⟨h, (ofText_concatenation h t).1, by decide +kernel⟩

end SchemaSheet
