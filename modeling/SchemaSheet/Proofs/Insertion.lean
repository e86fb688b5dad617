import SchemaSheet.Proofs.Notices

/-! Lines that say nothing: what the reader skips, and outside of models whatever is no header. The
reader looks at the numbers of lines only to copy them, so counting lines otherwise gives the same
reading with other numbers; a line that says nothing only moves the lines behind it. -/

namespace SchemaSheet

open Text

def Event.renumbered (f : Nat → Nat) : Event → Event
  | .opened n name => .opened (f n) name
  | .finished name columns => .finished name columns

/-- The reading with lines counted otherwise; tables hold no numbers of lines. -/
def Reading.renumbered (f : Nat → Nat) (r : Reading) : Reading where
  tables := r.tables
  notices := r.notices.map (Notice.renumbered f)
  events := r.events.map (Event.renumbered f)

/-- The number of a line once another one was put in behind the first `i`. -/
def Line.movedBehind (i n : Nat) : Nat := if i < n then n + 1 else n

namespace Reader

variable (f : Nat → Nat)

def renumbered (r : Reader) : Reader :=
  { r with
    current := r.current.map fun m => { m with line := f m.line }
    done := r.done.renumbered f }

@[simp] theorem current_renumbered (r : Reader) :
    (r.renumbered f).current = r.current.map fun m => { m with line := f m.line } := rfl

theorem openModel_renumbered (r : Reader) (n : Nat) (name : Text) :
    (r.renumbered f).openModel (f n) name = (r.openModel n name).renumbered f := by
  unfold openModel renumbered Reading.renumbered
  cases r.seen.contains name <;> simp [Notice.renumbered, Event.renumbered]

theorem finish_renumbered (r : Reader) (m : OpenModel) :
    (r.renumbered f).finish { m with line := f m.line } = (r.finish m).renumbered f := by
  simp [finish, renumbered, Reading.renumbered, Event.renumbered]

theorem field_renumbered (r : Reader) (m : OpenModel) (n : Nat) (line : Text) :
    (r.renumbered f).field { m with line := f m.line } (f n) line =
      (r.field m n line).renumbered f := by
  simp [field, renumbered, Reading.renumbered, complaints_renumbered f]

/-- A step does not depend on how lines are counted. -/
theorem take_renumbered (r : Reader) (n : Nat) (line : Text) :
    (r.renumbered f).take (f n) line = (r.take n line).renumbered f := by
  unfold take
  rw [current_renumbered]
  cases r.current with
  | none =>
    cases Line.header? line with
    | none => rfl
    | some name => exact openModel_renumbered f r n name
  | some m =>
    simp only [Option.map_some]
    split
    · exact finish_renumbered f r m
    · split
      · rfl
      · exact field_renumbered f r m n line

/-- Nor does a run, if neighbouring lines keep neighbouring numbers. -/
theorem takeAll_renumbered (r : Reader) (n k : Nat) (lines : List Text)
    (h : ∀ i < lines.length, f (n + i) = k + i) :
    (r.renumbered f).takeAll k lines = (r.takeAll n lines).renumbered f := by
  induction lines generalizing r n k with
  | nil => rfl
  | cons line lines ih =>
    have hfirst : f n = k := h 0 (by simp)
    rw [takeAll, takeAll, ← hfirst, take_renumbered]
    apply ih
    intro i hi
    have hnext := h (i + 1) (by simpa using hi)
    rw [Nat.add_assoc, Nat.add_comm 1 i, hnext, hfirst]
    omega

theorem close_renumbered (r : Reader) : (r.renumbered f).close = r.close.renumbered f := by
  unfold close
  rw [current_renumbered]
  cases r.current with
  | none => rfl
  | some m => simp [finish, renumbered, Reading.renumbered, Notice.renumbered, Event.renumbered]

theorem take_of_isSkipped (r : Reader) (n : Nat) {line : Text} (h : Line.isSkipped line = true) :
    r.take n line = r := by
  unfold take
  cases r.current with
  | none => simp [Line.header?_of_isSkipped h]
  | some m => simp [Line.isClosing_of_isSkipped h, h]

theorem take_of_outside {r : Reader} (n : Nat) {line : Text} (h : r.current = none)
    (hline : Line.header? line = none) : r.take n line = r := by
  simp [take, h, hline]

/-- A line that leaves the reader as it was only moves the lines behind it. -/
theorem takeAll_insert {before : List Text} {line : Text} (after : List Text)
    (h : (takeAll {} 1 before).take (1 + before.length) line = takeAll {} 1 before) :
    takeAll {} 1 (before ++ line :: after) =
      (takeAll {} 1 (before ++ after)).renumbered (Line.movedBehind before.length) := by
  have hstay : (takeAll {} 1 before).renumbered (Line.movedBehind before.length) =
      takeAll {} 1 before := by
    refine (takeAll_renumbered _ {} 1 1 before fun i hi => ?_).symm
    exact if_neg (by omega)
  have hmove : ((takeAll {} 1 before).renumbered (Line.movedBehind before.length)).takeAll
      (1 + before.length + 1) after =
        ((takeAll {} 1 before).takeAll (1 + before.length) after).renumbered
          (Line.movedBehind before.length) := by
    refine takeAll_renumbered _ _ _ _ after fun i hi => ?_
    rw [Line.movedBehind, if_pos (by omega)]
    omega
  rw [takeAll_append, takeAll, h, takeAll_append, ← hmove, hstay]

end Reader

namespace Block

/-- Whether the line with number `n` stands behind the header and not behind the brace. -/
def Encloses (b : Block) (n : Nat) : Prop :=
  b.opening < n ∧ (b.closed = true → n ≤ b.opening + b.body.length + 1)

instance (b : Block) (n : Nat) : Decidable (b.Encloses n) := inferInstanceAs (Decidable (_ ∧ _))

theorem not_encloses_of_mem_split {n : Nat} {lines : List Text} {b : Block}
    (h : b ∈ split n lines) : ¬ b.Encloses n := by
  intro henc
  have hlt := henc.1
  have hle := (opening_of_mem_split h).1
  omega

/-- The first lines leave a block open if and only if a block of all lines encloses the next. -/
theorem open?_split_take_eq_none_iff (n : Nat) (lines : List Text) (i : Nat) :
    open? (split n (lines.take i)) = none ↔ ∀ b ∈ split n lines, ¬ b.Encloses (n + i) := by
  -- along the blocks: the next line is enclosed by the first one, or stands outside of it
  induction n, lines using split_induction generalizing i with
  | nil n => simp
  | other n line rest hline ih =>
    cases i with
    | zero => simpa using fun b hb => not_encloses_of_mem_split hb
    | succ i =>
      rw [List.take_succ_cons, split_cons_of_none n _ hline, split_cons_of_none n _ hline, ih i,
        Nat.add_right_comm, Nat.add_assoc]
  | unclosed n line name rest hline hrest =>
    cases i with
    | zero => simpa using fun b hb => not_encloses_of_mem_split hb
    | succ i =>
      have htake : ∀ l ∈ rest.take i, Line.isClosing l = false :=
        fun l hl => hrest l (List.mem_of_mem_take hl)
      rw [List.take_succ_cons, split_cons_of_open n hline htake, split_cons_of_open n hline hrest]
      simp [open?, Encloses]
  | closed n line name body after hline hbody ih =>
    cases i with
    | zero => simpa using fun b hb => not_encloses_of_mem_split hb
    | succ i =>
      rw [List.take_succ_cons, split_cons_of_closed n after hline hbody rfl,
        List.forall_mem_cons]
      by_cases hi : i ≤ body.length
      · have htake : ∀ l ∈ body.take i, Line.isClosing l = false :=
          fun l hl => hbody l (List.mem_of_mem_take hl)
        rw [List.take_append_of_le_length hi, split_cons_of_open n hline htake]
        have henc : Encloses ⟨n, name, body, true⟩ (n + (i + 1)) := by
          refine ⟨?_, fun _ => ?_⟩
          · simp only
            omega
          · simp only
            omega
        simp [open?, henc]
      · obtain ⟨j, rfl⟩ : ∃ j, i = body.length + 1 + j := ⟨i - (body.length + 1), by omega⟩
        have hcut : (body ++ ['}'] :: after).take (body.length + 1 + j) =
            body ++ ['}'] :: after.take j := by
          rw [Nat.add_assoc, List.take_length_add_append, Nat.add_comm 1, List.take_succ_cons]
        have hout : ¬ Encloses ⟨n, name, body, true⟩ (n + (body.length + 1 + j + 1)) := by
          intro henc
          have := henc.2 rfl
          simp only at this
          omega
        have hnext : n + (body.length + 1 + j + 1) = n + body.length + 2 + j := by omega
        rw [hcut, split_cons_of_closed n _ hline hbody rfl, open?_cons_of_closed _ rfl, ih j]
        rw [hnext] at hout ⊢
        exact (and_iff_right hout).symm

end Block

/-- The text with one more line behind its first `i` lines. -/
def Text.withLine (t : Text) (i : Nat) (line : Text) : Text :=
  joined ['\n'] ((lines t).take i ++ line :: (lines t).drop i)

/-- The text without the line behind its first `i` lines. -/
def Text.withoutLine (t : Text) (i : Nat) : Text :=
  joined ['\n'] ((lines t).take i ++ (lines t).drop (i + 1))

/-- Whether a line says nothing behind the first `i` lines of a schema: blank lines, comments and
block attributes never do, and outside of models whatever is no header. -/
def Line.IsIdle (schema : Text) (i : Nat) (line : Text) : Prop :=
  (trim line = [] ∨ "//".toList <+: trim line ∨ "@@".toList <+: trim line) ∨
    header? (trim line) = none ∧ ∀ b ∈ Block.split 1 schema.trimmedLines, ¬ b.Encloses (1 + i)

theorem Reader.current_takeAll_eq_none_iff (lines : List Text) :
    (takeAll {} 1 lines).current = none ↔ Block.open? (Block.split 1 lines) = none := by
  rw [takeAll_eq_reader, Block.reader, Option.map_eq_none_iff]

theorem Line.IsIdle.take_eq {schema line : Text} {i : Nat} (h : IsIdle schema i line) (n : Nat) :
    (Reader.takeAll {} 1 (schema.trimmedLines.take i)).take n (trim line) =
      Reader.takeAll {} 1 (schema.trimmedLines.take i) := by
  rcases h with hskip | ⟨hheader, houtside⟩
  · exact Reader.take_of_isSkipped _ n (isSkipped_eq_true_iff.2 hskip)
  · refine Reader.take_of_outside n ?_ hheader
    rw [Reader.current_takeAll_eq_none_iff, Block.open?_split_take_eq_none_iff]
    exact houtside

namespace Reading

/-- Lines without line feeds are read as they are, also if there is none. -/
theorem ofText_joined {ls : List Text} (h : ∀ l ∈ ls, '\n' ∉ l) :
    ofText (joined ['\n'] ls) = ofLines ls := by
  by_cases hls : ls = []
  · rw [hls]
    rfl
  · rw [ofText, lines, pieces_joined hls h]

/-- With a line that says nothing, a schema is read as without it, and lines are counted on. -/
theorem ofLines_idle {schema line : Text} {i : Nat} (h : Line.IsIdle schema i line)
    (hi : i ≤ (lines schema).length) (after : List Text) :
    ofLines ((lines schema).take i ++ line :: after) =
      (ofLines ((lines schema).take i ++ after)).renumbered (Line.movedBehind i) := by
  have hlen : ((lines schema).take i).length = i := List.length_take_of_le hi
  have htake : ((lines schema).take i).map trim = schema.trimmedLines.take i :=
    List.map_take
  have hinsert := Reader.takeAll_insert (after.map trim)
    (h.take_eq (1 + (schema.trimmedLines.take i).length))
  rw [← htake, List.length_map, hlen, ← List.map_append, ← List.map_cons, ← List.map_append]
    at hinsert
  unfold ofLines
  rw [hinsert, Reader.close_renumbered]

/-- A line that says nothing can be put into a schema or taken out of it: the tables stay, and so do
notices and events, but that lines behind the place get other numbers. -/
theorem ofText_idle {schema : Text} {i : Nat} {line : Text} (h : Line.IsIdle schema i line) :
    (i ≤ (lines schema).length → '\n' ∉ line →
      let longer := ofText (schema.withLine i line)
      longer.tables = (ofText schema).tables ∧
      longer.notices = (ofText schema).notices.map (Notice.renumbered (Line.movedBehind i)) ∧
      longer.events = (ofText schema).events.map (Event.renumbered (Line.movedBehind i))) ∧
    ((lines schema)[i]? = some line →
      let shorter := ofText (schema.withoutLine i)
      (ofText schema).tables = shorter.tables ∧
      (ofText schema).notices = shorter.notices.map (Notice.renumbered (Line.movedBehind i)) ∧
      (ofText schema).events = shorter.events.map (Event.renumbered (Line.movedBehind i))) := by
  have hfree : ∀ l ∈ lines schema, '\n' ∉ l := fun l hl => not_mem_of_mem_pieces hl
  constructor
  · intro hi hfeed longer
    have hlonger : longer = (ofText schema).renumbered (Line.movedBehind i) := by
      have hidle := ofLines_idle h hi ((lines schema).drop i)
      rw [List.take_append_drop] at hidle
      refine (ofText_joined fun l hl => ?_).trans hidle
      rcases List.mem_append.1 hl with hl | hl
      · exact hfree l (List.mem_of_mem_take hl)
      · rcases List.mem_cons.1 hl with rfl | hl
        · exact hfeed
        · exact hfree l (List.mem_of_mem_drop hl)
    rw [hlonger]
    exact ⟨rfl, rfl, rfl⟩
  · intro hi shorter
    have hshorter : ofText schema = shorter.renumbered (Line.movedBehind i) := by
      obtain ⟨hlt, hget⟩ := List.getElem?_eq_some_iff.1 hi
      have hidle := ofLines_idle h hlt.le ((lines schema).drop (i + 1))
      rw [← hget, ← List.drop_eq_getElem_cons hlt, List.take_append_drop] at hidle
      have hjoined : shorter = ofLines ((lines schema).take i ++ (lines schema).drop (i + 1)) := by
        refine ofText_joined fun l hl => ?_
        rcases List.mem_append.1 hl with hl | hl
        · exact hfree l (List.mem_of_mem_take hl)
        · exact hfree l (List.mem_of_mem_drop hl)
      rw [hjoined]
      exact hidle
    rw [hshorter]
    exact ⟨rfl, rfl, rfl⟩

/-- A comment put into a model that stays open: the line of its header stays, those behind the
comment move. The line before the model could as well be missing. -/
theorem ofText_idle_inside :
    let schema : Text := "x Int\nmodel A \x7b\n?\nmodel B \x7b".toList
    let comment : Text := " // c".toList
    Line.IsIdle schema 2 comment ∧ 2 ≤ (lines schema).length ∧ '\n' ∉ comment ∧
    (ofText (schema.withLine 2 comment)).notices =
      [.malformedField 4 ['A'] ['?'], .nestedHeader 5 ['A'] ['B'], .unterminated 2 ['A']] ∧
    Line.IsIdle schema 0 "x Int".toList ∧ (lines schema)[0]? = some "x Int".toList ∧
    (ofText (schema.withoutLine 0)).tables = (ofText schema).tables := by
  intro schema comment
  have hinside : Line.IsIdle schema 2 comment := Or.inl (Or.inr (Or.inl (by decide)))
  have houtside : Line.IsIdle schema 0 "x Int".toList :=
    Or.inr ⟨by decide +kernel, fun b hb => Block.not_encloses_of_mem_split hb⟩
  have hlonger := (ofText_idle hinside).1 (by decide) (by decide)
  have hshorter := (ofText_idle houtside).2 (by decide)
  exact ⟨hinside, by decide, by decide, hlonger.2.1.trans (by decide +kernel), houtside,
    by decide, hshorter.1.symm⟩

end Reading

end SchemaSheet
