import SchemaSheet.Proofs.Reading

/-! What reading on leaves of what was read: more input adds notices, lengthens the model that is
still open, and adds models behind it. Only the notice that the input ended inside a model is taken
back, so the two runs are compared by the blocks of their lines. -/

namespace SchemaSheet

open Text

/-- The notice that is about the end of the input; all others are about a line. -/
def Notice.isUnterminated : Notice → Bool
  | .unterminated .. => true
  | _ => false

namespace Reading

/-- The notices about lines. -/
def lasting (r : Reading) : List Notice := r.notices.filter (!·.isUnterminated)

/-- Whether the input ended inside a model. -/
def endsInside (r : Reading) : Bool := r.notices.any Notice.isUnterminated

/-- The second reading goes on where the first one ended. -/
structure Continues (r r' : Reading) : Prop where
  notices : r.lasting <+: r'.lasting
  tables_of_outside : r.endsInside = false → r.tables <+: r'.tables
  tables_of_inside : r.endsInside = true → r.tables.dropLast <+: r'.tables ∧
    ∃ t t', r.tables.getLast? = some t ∧ r'.tables[r.tables.length - 1]? = some t' ∧
      t'.name = t.name ∧ t.columns <+: t'.columns

end Reading

namespace Block

theorem isUnterminated_of_mem_noticesAt {bs : List Block} {n : Nat} {line : Text} {x : Notice}
    (h : x ∈ noticesAt bs n line) : x.isUnterminated = false := by
  rcases grown_cases bs n line with ⟨ho, hh, -⟩ | ⟨name, ho, hh, -⟩ | ⟨init, b, rfl, hb, -⟩
  · simp [noticesAt, ho, hh] at h
  · simp only [noticesAt, ho, hh] at h
    split at h
    · rw [List.mem_singleton] at h
      rw [h]
      rfl
    · cases h
  · simp only [noticesAt, open?_concat, hb, Bool.false_eq_true, if_false] at h
    split at h
    · cases h
    · rcases List.mem_append.1 h with h | h
      · obtain ⟨name, -, rfl⟩ := List.mem_map.1 h
        rfl
      · split at h
        · rw [List.mem_singleton] at h
          rw [h]
          rfl
        · cases h

theorem isUnterminated_of_mem_lineNotices {lines : List Text} {x : Notice}
    (h : x ∈ lineNotices lines) : x.isUnterminated = false := by
  obtain ⟨⟨before, line⟩, -, hx⟩ := List.mem_flatMap.1 h
  exact isUnterminated_of_mem_noticesAt hx

theorem lineNotices_prefix (lines more : List Text) :
    lineNotices lines <+: lineNotices (lines ++ more) := by
  induction more using List.reverseRecOn with
  | nil => simp
  | append_singleton more line ih =>
    rw [← List.append_assoc, lineNotices_concat]
    exact ih.trans (List.prefix_append _ _)

theorem split_append_of_open {n : Nat} {lines : List Text} {init : List Block} {b : Block}
    (h : split n lines = init ++ [b]) (more : List Text) :
    ∃ b' rest, split n (lines ++ more) = init ++ b' :: rest ∧ b'.name = b.name ∧
      b.body <+: b'.body := by
  induction more using List.reverseRecOn with
  | nil => exact ⟨b, [], by rw [List.append_nil, h], rfl, List.prefix_refl _⟩
  | append_singleton more line ih =>
    obtain ⟨b', rest, hsplit, hname, hbody⟩ := ih
    rw [← List.append_assoc, split_concat, hsplit]
    rcases grown_cases (init ++ b' :: rest) (n + (lines ++ more).length) line with
      ⟨-, -, hg⟩ | ⟨name, -, -, hg⟩ | ⟨before, c, hbs, -, hg⟩
    · exact ⟨b', rest, hg, hname, hbody⟩
    · exact ⟨b', rest ++ [_], by rw [hg, List.append_assoc]; rfl, hname, hbody⟩
    · rw [hg]
      cases rest using List.reverseRecOn with
      | nil =>
        -- the open block itself takes the line
        obtain ⟨rfl, hc⟩ := List.append_inj' hbs rfl
        cases hc
        refine ⟨b'.extended line, [], rfl, by rw [name_extended, hname], hbody.trans ?_⟩
        unfold extended
        split
        · exact List.prefix_refl _
        · exact List.prefix_append _ _
      | append_singleton rest d =>
        rw [← List.cons_append, ← List.append_assoc] at hbs
        obtain ⟨rfl, -⟩ := List.append_inj' hbs rfl
        exact ⟨b', rest ++ [c.extended line], by simp, hname, hbody⟩

theorem columns_prefix {b b' : Block} (h : b.body <+: b'.body) :
    b.table.columns <+: b'.table.columns :=
  (h.filter _).filterMap _

end Block

open Block

theorem Reading.lasting_ofText (t : Text) : (ofText t).lasting = lineNotices t.trimmedLines := by
  rw [lasting, ofText_eq, List.filter_append, List.filter_eq_self.2, List.filter_eq_nil_iff.2,
    List.append_nil]
  · intro x hx
    obtain ⟨b, -, rfl⟩ := List.mem_map.1 hx
    exact Bool.false_ne_true
  · intro x hx
    rw [isUnterminated_of_mem_lineNotices hx]
    rfl

theorem Reading.endsInside_ofText (t : Text) :
    (ofText t).endsInside = (open? (split 1 t.trimmedLines)).isSome := by
  have hlines : (lineNotices t.trimmedLines).any Notice.isUnterminated = false :=
    List.any_eq_false.2 fun x hx => by simp [isUnterminated_of_mem_lineNotices hx]
  rw [endsInside, ofText_eq, List.any_append, hlines, Bool.false_or, unterminated]
  cases open? (split 1 t.trimmedLines) <;> rfl

theorem Reading.continues_of_lines {s t : Text} {more : List Text}
    (hlines : t.trimmedLines = s.trimmedLines ++ more) : (ofText s).Continues (ofText t) := by
  refine ⟨?_, fun h => ?_, fun h => ?_⟩
  · rw [lasting_ofText, lasting_ofText, hlines]
    exact lineNotices_prefix _ _
  · rw [endsInside_ofText, Option.isSome_eq_false_iff, Option.isNone_iff_eq_none] at h
    rw [ofText_eq, ofText_eq, hlines, split_append 1 h, List.map_append]
    exact List.prefix_append _ _
  · rw [endsInside_ofText] at h
    obtain ⟨b, hb⟩ := Option.isSome_iff_exists.1 h
    obtain ⟨hbs, -⟩ := eq_concat_of_open? hb
    generalize (split 1 s.trimmedLines).dropLast = init at hbs
    obtain ⟨b', rest, hsplit, hname, hbody⟩ := split_append_of_open hbs more
    rw [ofText_eq, ofText_eq, hlines, hsplit, hbs]
    simp only [List.map_append, List.map_cons, List.map_nil]
    refine ⟨?_, b.table, b'.table, by simp, by simp, hname, columns_prefix hbody⟩
    rw [List.dropLast_concat]
    exact List.prefix_append _ _

/-- Of the lines of a schema, the first ones are read the same way whatever follows: what they add
to notices and finished tables stays, and the table of a model that they leave open is the beginning
of one that is at its place later. -/
theorem Reading.continues_take {lines : List Text} {n m : Nat} (hn : 1 ≤ n) (hnm : n ≤ m)
    (hm : m ≤ lines.length) :
    (ofText (joined ['\n'] (lines.take n))).Continues
      (ofText (joined ['\n'] (lines.take m))) := by
  have hcut : lines.take m = lines.take n ++ (lines.drop n).take (m - n) := by
    rw [← List.take_add, Nat.add_sub_cancel' hnm]
  have hne : lines.take n ≠ [] := by
    rw [← List.length_pos_iff, List.length_take]
    omega
  by_cases hmore : (lines.drop n).take (m - n) = []
  · rw [hcut, hmore, List.append_nil]
    exact continues_of_lines (List.append_nil _).symm
  · rw [hcut, joined_append hne hmore, List.append_assoc, List.singleton_append]
    exact continues_of_lines (trimmedLines_append _ _)

/-- A model that is open after three lines, one of which is noticed, and takes a fourth. -/
theorem Reading.continues_take_open :
    let lines := ["model A \x7b".toList, "x Int".toList, "??".toList, "y Int".toList]
    1 ≤ 3 ∧ 3 ≤ 4 ∧ 4 ≤ lines.length ∧
    (ofText (joined ['\n'] (lines.take 3))).endsInside = true ∧
    (ofText (joined ['\n'] (lines.take 3))).Continues
      (ofText (joined ['\n'] (lines.take 4))) := by
  intro lines
  exact ⟨by decide, by decide, by decide, by decide +kernel,
    continues_take (by decide) (by decide) (by decide)⟩

end SchemaSheet
