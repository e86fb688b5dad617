import Mathlib.Data.List.Induction
import Mathlib.Data.List.TakeWhile
import SchemaSheet.Schema.Line

/-! The blocks of a schema, cut out of its trimmed lines with no reader in sight: lines are dropped
up to a header, the body runs up to the next closing brace or the end, and so on behind the brace.
What one more line does to the blocks is all that a proof about a run of lines needs. -/

namespace SchemaSheet

/-- A model as it stands in a schema. -/
structure Block where
  /-- The number of the header's line. -/
  opening : Nat
  name : Text
  /-- The lines behind the header, up to the closing brace or the end. -/
  body : List Text
  /-- Whether there is a closing brace. -/
  closed : Bool
  deriving DecidableEq, Repr

namespace Block

/-- The lines that may declare a column. -/
def candidates (b : Block) : List Text := b.body.filter (!Line.isSkipped ·)

def table (b : Block) : Table := ⟨b.name, b.candidates.filterMap Line.column?⟩

/-- The blocks of trimmed lines, the first of which has number `n`. -/
def split (n : Nat) : List Text → List Block
  | [] => []
  | line :: rest =>
    match Line.header? line with
    | none => split (n + 1) rest
    | some name =>
      let body := rest.takeWhile (!Line.isClosing ·)
      match h : rest.dropWhile (!Line.isClosing ·) with
      | [] => [⟨n, name, body, false⟩]
      | _ :: after => ⟨n, name, body, true⟩ :: split (n + body.length + 2) after
termination_by lines => lines.length
decreasing_by
  · simp
  · have := (List.dropWhile_sublist (fun l => !Line.isClosing l) (l := rest)).length_le
    rw [h] at this
    simp only [List.length_cons] at this ⊢
    omega

/-- The last block, if no brace closes it. -/
def open? (bs : List Block) : Option Block := bs.getLast?.filter (!·.closed)

def finished (bs : List Block) : List Block := if (open? bs).isSome then bs.dropLast else bs

def extended (b : Block) (line : Text) : Block :=
  if Line.isClosing line then { b with closed := true } else { b with body := b.body ++ [line] }

/-- The blocks with one more line, which has number `n`. -/
def grown (bs : List Block) (n : Nat) (line : Text) : List Block :=
  match open? bs with
  | none => bs ++ ((Line.header? line).map (⟨n, ·, [], false⟩)).toList
  | some b => bs.dropLast ++ [b.extended line]

@[simp] theorem opening_extended (b : Block) (line : Text) :
    (b.extended line).opening = b.opening := by
  unfold extended
  split <;> rfl

@[simp] theorem name_extended (b : Block) (line : Text) : (b.extended line).name = b.name := by
  unfold extended
  split <;> rfl

@[simp] theorem closed_extended (b : Block) (line : Text) :
    (b.extended line).closed = (b.closed || Line.isClosing line) := by
  unfold extended
  cases Line.isClosing line <;> simp

@[simp] theorem open?_nil : open? [] = none := rfl

@[simp] theorem open?_concat (bs : List Block) (b : Block) :
    open? (bs ++ [b]) = if b.closed then none else some b := by
  unfold open?
  rw [List.getLast?_concat]
  cases h : b.closed <;> simp [h]

@[simp] theorem finished_concat (bs : List Block) (b : Block) :
    finished (bs ++ [b]) = if b.closed then bs ++ [b] else bs := by
  unfold finished
  rw [open?_concat]
  cases b.closed <;> simp

theorem closed_of_getLast? {bs : List Block} {b : Block} (ho : open? bs = none)
    (h : bs.getLast? = some b) : b.closed = true := by
  obtain ⟨init, rfl⟩ := List.getLast?_eq_some_iff.1 h
  rw [open?_concat] at ho
  cases hc : b.closed with
  | false => rw [hc] at ho; cases ho
  | true => rfl

theorem finished_of_none {bs : List Block} (h : open? bs = none) : finished bs = bs := by
  simp [finished, h]

theorem open?_cons_of_closed {b : Block} (bs : List Block) (h : b.closed = true) :
    open? (b :: bs) = open? bs := by
  cases bs with
  | nil => simp [open?, h]
  | cons c bs => simp [open?, List.getLast?_cons_cons]

theorem open?_append_of_none {bs : List Block} (h : open? bs = none) (cs : List Block) :
    open? (bs ++ cs) = open? cs := by
  cases cs using List.reverseRecOn with
  | nil => rw [List.append_nil, h]; rfl
  | append_singleton cs c => rw [← List.append_assoc, open?_concat, open?_concat]

theorem eq_concat_of_open? {bs : List Block} {b : Block} (h : open? bs = some b) :
    bs = bs.dropLast ++ [b] ∧ b.closed = false := by
  obtain ⟨hlast, hopen⟩ := Option.filter_eq_some_iff.1 h
  obtain ⟨init, rfl⟩ := List.getLast?_eq_some_iff.1 hlast
  exact ⟨by simp, by simpa using hopen⟩

theorem grown_of_none {bs : List Block} (n : Nat) (line : Text) (h : open? bs = none) :
    grown bs n line = bs ++ ((Line.header? line).map (⟨n, ·, [], false⟩)).toList := by
  rw [grown, h]

theorem grown_concat (bs : List Block) {b : Block} (n : Nat) (line : Text)
    (h : b.closed = false) : grown (bs ++ [b]) n line = bs ++ [b.extended line] := by
  rw [grown, open?_concat, h]
  simp

/-- What one more line can do: nothing, start a block, or go to the last block. -/
theorem grown_cases (bs : List Block) (n : Nat) (line : Text) :
    (open? bs = none ∧ Line.header? line = none ∧ grown bs n line = bs) ∨
    (∃ name, open? bs = none ∧ Line.header? line = some name ∧
      grown bs n line = bs ++ [⟨n, name, [], false⟩]) ∨
    ∃ init b, bs = init ++ [b] ∧ b.closed = false ∧
      grown bs n line = init ++ [b.extended line] := by
  cases ho : open? bs with
  | none =>
    cases hh : Line.header? line with
    | none => exact Or.inl ⟨rfl, rfl, by simp [grown_of_none _ _ ho, hh]⟩
    | some name => exact Or.inr (Or.inl ⟨name, rfl, rfl, by simp [grown_of_none _ _ ho, hh]⟩)
  | some b =>
    obtain ⟨hbs, hclosed⟩ := eq_concat_of_open? ho
    refine Or.inr (Or.inr ⟨bs.dropLast, b, hbs, hclosed, ?_⟩)
    rw [grown, ho]

theorem grown_cons_of_closed {b : Block} (bs : List Block) (n : Nat) (line : Text)
    (h : b.closed = true) : grown (b :: bs) n line = b :: grown bs n line := by
  unfold grown
  rw [open?_cons_of_closed bs h]
  cases ho : open? bs with
  | none => rfl
  | some c =>
    obtain ⟨hbs, -⟩ := eq_concat_of_open? ho
    have hne : bs ≠ [] := by
      rintro rfl
      cases ho
    simp only [List.dropLast_cons_of_ne_nil hne, List.cons_append]

@[simp] theorem split_nil (n : Nat) : split n [] = [] := by rw [split]

theorem split_cons_of_none {line : Text} (n : Nat) (rest : List Text)
    (h : Line.header? line = none) : split n (line :: rest) = split (n + 1) rest := by
  rw [split, h]

theorem split_cons_of_open {line name : Text} {rest : List Text} (n : Nat)
    (h : Line.header? line = some name) (hrest : ∀ l ∈ rest, Line.isClosing l = false) :
    split n (line :: rest) = [⟨n, name, rest, false⟩] := by
  have hdrop : rest.dropWhile (!Line.isClosing ·) = [] := by
    rw [List.dropWhile_eq_nil_iff]
    intro l hl
    simp [hrest l hl]
  have htake : rest.takeWhile (!Line.isClosing ·) = rest := by
    rw [List.takeWhile_eq_self_iff]
    intro l hl
    simp [hrest l hl]
  rw [split, h]
  simp only
  split
  · rw [htake]
  · next hcons => rw [hdrop] at hcons; cases hcons

theorem split_cons_of_closed {line name brace : Text} {body : List Text} (n : Nat)
    (after : List Text) (h : Line.header? line = some name)
    (hbody : ∀ l ∈ body, Line.isClosing l = false) (hbrace : Line.isClosing brace = true) :
    split n (line :: (body ++ brace :: after)) =
      ⟨n, name, body, true⟩ :: split (n + body.length + 2) after := by
  have hpos : ∀ l ∈ body, (!Line.isClosing l) = true := by
    intro l hl
    simp [hbody l hl]
  have hdrop : (body ++ brace :: after).dropWhile (!Line.isClosing ·) = brace :: after := by
    rw [List.dropWhile_append_of_pos hpos]
    simp [hbrace]
  have htake : (body ++ brace :: after).takeWhile (!Line.isClosing ·) = body := by
    rw [List.takeWhile_append_of_pos hpos]
    simp [hbrace]
  rw [split, h]
  simp only
  split
  · next hnil => rw [hdrop] at hnil; cases hnil
  · next hcons =>
    rw [hdrop] at hcons
    cases hcons
    rw [htake]

/-- Induction along the blocks of lines: a line outside of them, a block without a closing brace, or
a closed block and the lines behind it. -/
@[elab_as_elim]
theorem split_induction {motive : Nat → List Text → Prop} (nil : ∀ n, motive n [])
    (other : ∀ n line rest, Line.header? line = none → motive (n + 1) rest →
      motive n (line :: rest))
    (unclosed : ∀ n line name rest, Line.header? line = some name →
      (∀ l ∈ rest, Line.isClosing l = false) → motive n (line :: rest))
    (closed : ∀ n line name body after, Line.header? line = some name →
      (∀ l ∈ body, Line.isClosing l = false) → motive (n + body.length + 2) after →
      motive n (line :: (body ++ ['}'] :: after))) (n : Nat) (lines : List Text) :
    motive n lines := by
  fun_induction split n lines with
  | case1 n => exact nil n
  | case2 n line rest hline ih => exact other n line rest hline ih
  | case3 n line rest name hline body hdrop =>
    exact unclosed n line name rest hline (by simpa [List.dropWhile_eq_nil_iff] using hdrop)
  | case4 n line rest name hline body brace after hdrop ih =>
    have hbody : ∀ l ∈ body, Line.isClosing l = false := by
      intro l hl
      simpa using List.mem_takeWhile_imp hl
    have hbrace : brace = ['}'] := by
      have hstop := List.head?_dropWhile_not (!Line.isClosing ·) rest
      rw [hdrop] at hstop
      simpa [Line.isClosing] using hstop
    have hrest : rest = body ++ ['}'] :: after := by
      rw [← hbrace, ← hdrop]
      exact List.takeWhile_append_dropWhile.symm
    rw [hrest]
    exact closed n line name body after hline hbody ih

theorem split_concat (n : Nat) (lines : List Text) (line : Text) :
    split n (lines ++ [line]) = grown (split n lines) (n + lines.length) line := by
  -- along the blocks: the line lands in the last one, or behind it
  induction n, lines using split_induction with
  | nil n =>
    cases h : Line.header? line with
    | none => simp [split_cons_of_none _ _ h, grown, h]
    | some name =>
      have hsplit := split_cons_of_open n h (List.forall_mem_nil _)
      simp [hsplit, grown, h]
  | other n first rest hfirst ih =>
    rw [List.cons_append, split_cons_of_none _ _ hfirst, split_cons_of_none _ _ hfirst, ih,
      List.length_cons, Nat.add_right_comm, Nat.add_assoc]
  | unclosed n first name rest hfirst hrest =>
    have hgrown := grown_concat [] (n + (first :: rest).length) line
      (b := ⟨n, name, rest, false⟩) rfl
    rw [List.nil_append, List.nil_append] at hgrown
    rw [List.cons_append, split_cons_of_open n hfirst hrest, hgrown]
    cases hline : Line.isClosing line with
    | false =>
      have hall : ∀ l ∈ rest ++ [line], Line.isClosing l = false := by
        simpa [or_imp, forall_and, hline] using hrest
      rw [split_cons_of_open n hfirst hall]
      simp [extended, hline]
    | true =>
      rw [split_cons_of_closed n [] hfirst hrest hline]
      simp [extended, hline]
  | closed n first name body after hfirst hbody ih =>
    have hlen : n + (first :: (body ++ ['}'] :: after)).length =
        n + body.length + 2 + after.length := by
      simp only [List.length_cons, List.length_append]
      omega
    rw [hlen, split_cons_of_closed n after hfirst hbody rfl, grown_cons_of_closed _ _ _ rfl, ← ih,
      List.cons_append, List.append_assoc, List.cons_append]
    exact split_cons_of_closed n (after ++ [line]) hfirst hbody rfl

theorem split_append (n : Nat) {before : List Text} (h : open? (split n before) = none)
    (after : List Text) :
    split n (before ++ after) = split n before ++ split (n + before.length) after := by
  induction after using List.reverseRecOn with
  | nil => simp
  | append_singleton after line ih =>
    rw [← List.append_assoc, split_concat, split_concat, ih, List.length_append, Nat.add_assoc]
    cases ho : open? (split (n + before.length) after) with
    | none =>
      have hnone : open? (split n before ++ split (n + before.length) after) = none := by
        rw [open?_append_of_none h, ho]
      rw [grown_of_none _ _ hnone, grown_of_none _ _ ho, List.append_assoc]
    | some b =>
      obtain ⟨hbs, hclosed⟩ := eq_concat_of_open? ho
      rw [hbs, ← List.append_assoc, grown_concat _ _ _ hclosed, grown_concat _ _ _ hclosed,
        List.append_assoc]

theorem opening_of_mem_split {n : Nat} {lines : List Text} {b : Block} (h : b ∈ split n lines) :
    n ≤ b.opening ∧ b.opening < n + lines.length := by
  induction lines using List.reverseRecOn generalizing b with
  | nil => simp at h
  | append_singleton lines line ih =>
    rw [split_concat] at h
    rw [List.length_append, List.length_singleton]
    rcases grown_cases (split n lines) (n + lines.length) line with
      ⟨-, -, hg⟩ | ⟨name, -, -, hg⟩ | ⟨init, c, hbs, -, hg⟩
    · rw [hg] at h
      have := ih h
      omega
    · rw [hg, List.mem_append, List.mem_singleton] at h
      rcases h with h | rfl
      · have := ih h
        omega
      · simp only
        omega
    · rw [hg, List.mem_append, List.mem_singleton] at h
      rcases h with h | rfl
      · have := ih (hbs ▸ List.mem_append_left [c] h)
        omega
      · have := ih (hbs ▸ List.mem_append_right init (List.mem_singleton_self c))
        rw [opening_extended]
        omega

theorem body_prefix_drop {n : Nat} {lines : List Text} {b : Block} (h : b ∈ split n lines) :
    b.body <+: lines.drop (b.opening + 1 - n) := by
  induction n, lines using split_induction with
  | nil n => simp at h
  | other n line rest hline ih =>
    rw [split_cons_of_none _ _ hline] at h
    have hle := (opening_of_mem_split h).1
    have hdrop : b.opening + 1 - n = b.opening + 1 - (n + 1) + 1 := by omega
    rw [hdrop, List.drop_succ_cons]
    exact ih h
  | unclosed n line name rest hline hrest =>
    rw [split_cons_of_open n hline hrest, List.mem_singleton] at h
    subst h
    simp
  | closed n line name body after hline hbody ih =>
    rw [split_cons_of_closed n after hline hbody rfl, List.mem_cons] at h
    rcases h with rfl | h
    · simp
    · have hle := (opening_of_mem_split h).1
      have hdrop : b.opening + 1 - n =
          (line :: (body ++ [['}']])).length + (b.opening + 1 - (n + body.length + 2)) := by
        simp only [List.length_cons, List.length_append, List.length_nil]
        omega
      have hcut : line :: (body ++ ['}'] :: after) = line :: (body ++ [['}']]) ++ after := by simp
      rw [hcut, hdrop, List.drop_length_add_append]
      exact ih h

theorem header?_opening {lines : List Text} {b : Block} (h : b ∈ split 1 lines) :
    ∃ line, lines[b.opening - 1]? = some line ∧ Line.header? line = some b.name := by
  induction lines using List.reverseRecOn generalizing b with
  | nil => simp at h
  | append_singleton lines line ih =>
    have hkeep (c : Block) (hc : c ∈ split 1 lines) : ∃ l,
        (lines ++ [line])[c.opening - 1]? = some l ∧ Line.header? l = some c.name := by
      obtain ⟨l, hl, hname⟩ := ih hc
      have hlt := opening_of_mem_split hc
      exact ⟨l, by rw [List.getElem?_append_left (by omega), hl], hname⟩
    rw [split_concat] at h
    rcases grown_cases (split 1 lines) (1 + lines.length) line with
      ⟨-, -, hg⟩ | ⟨name, -, hh, hg⟩ | ⟨init, c, hbs, -, hg⟩
    · rw [hg] at h
      exact hkeep b h
    · rw [hg, List.mem_append, List.mem_singleton] at h
      rcases h with h | rfl
      · exact hkeep b h
      · exact ⟨line, by simp, hh⟩
    · rw [hg, List.mem_append, List.mem_singleton] at h
      rcases h with h | rfl
      · exact hkeep b (hbs ▸ List.mem_append_left [c] h)
      · rw [opening_extended, name_extended]
        exact hkeep c (hbs ▸ List.mem_append_right init (List.mem_singleton_self c))

/-- The last block is closed if and only if there is a closing brace behind its header. -/
theorem closed_getLast {lines : List Text} {b : Block} (h : (split 1 lines).getLast? = some b) :
    b.closed = (lines.drop b.opening).any Line.isClosing := by
  induction lines using List.reverseRecOn generalizing b with
  | nil => simp at h
  | append_singleton lines line ih =>
    rw [split_concat] at h
    rcases grown_cases (split 1 lines) (1 + lines.length) line with
      ⟨ho, -, hg⟩ | ⟨name, -, -, hg⟩ | ⟨init, c, hbs, hc, hg⟩
    · rw [hg] at h
      have hclosed : b.closed = true := closed_of_getLast? ho h
      have hlt := (opening_of_mem_split (List.mem_of_getLast? h)).2
      rw [List.drop_append_of_le_length (by omega), List.any_append, ← ih h, hclosed, Bool.true_or]
    · rw [hg, List.getLast?_concat, Option.some.injEq] at h
      subst h
      simp [Nat.add_comm 1]
    · rw [hg, List.getLast?_concat, Option.some.injEq] at h
      subst h
      have hlast : (split 1 lines).getLast? = some c := by
        rw [hbs, List.getLast?_concat]
      have hlt := (opening_of_mem_split (List.mem_of_getLast? hlast)).2
      rw [opening_extended, List.drop_append_of_le_length (by omega), List.any_append, ← ih hlast,
        closed_extended]
      simp

end Block

end SchemaSheet
