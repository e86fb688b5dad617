/-! Text is handled as the list of its characters. Here stand its lines, its decimal numerals and
the two cuts that everything else is made of: what follows a given start, and the pieces between
separators. -/

namespace SchemaSheet

abbrev Text := List Char

namespace Text

/-- What follows `start` in a text that begins with it. -/
def after? : Text → Text → Option Text
  | [], t => some t
  | _ :: _, [] => none
  | s :: ss, c :: cs => if s = c then after? ss cs else none

/-- The pieces between the separators; one piece more than there are separators. -/
def pieces {α : Type} [DecidableEq α] (separator : α) (t : List α) : List (List α) :=
  t.foldr (fun c ps => if c = separator then [] :: ps else (c :: ps.headD []) :: ps.tail) [[]]

def joined (gap : Text) : List Text → Text
  | [] => []
  | [t] => t
  | t :: ts => t ++ gap ++ joined gap ts

/-- The lines of a text, which only a line feed divides. -/
def lines (t : Text) : List Text := pieces '\n' t

/-- The lines of a text, each of which a line feed ends or a carriage return and a line feed. What
follows the last line feed is a line if it is not empty. -/
def endedLines (t : Text) : List Text :=
  match (lines t).reverse with
  | [] => []
  | last :: before =>
    before.reverse.map (fun l => if l.getLast? = some '\r' then l.dropLast else l) ++
      if last.isEmpty then [] else [last]

def ofNat (n : Nat) : Text := Nat.toDigits 10 n

theorem after?_append (s t : Text) : after? s (s ++ t) = some t := by
  induction s with
  | nil => rfl
  | cons c s ih => simpa [after?] using ih

theorem eq_append_of_after? {s t r : Text} (h : after? s t = some r) : t = s ++ r := by
  fun_induction after? s t with
  | case1 t => simpa using h
  | case2 => simp at h
  | case3 s ss cs ih => simp [ih h]
  | case4 => simp at h

theorem after?_eq_some_iff {s t r : Text} : after? s t = some r ↔ t = s ++ r :=
  ⟨eq_append_of_after?, fun h => h ▸ after?_append s r⟩

@[simp] theorem pieces_nil {α : Type} [DecidableEq α] (x : α) : pieces x [] = [[]] := rfl

theorem pieces_cons {α : Type} [DecidableEq α] (x c : α) (t : List α) :
    pieces x (c :: t) =
      if c = x then [] :: pieces x t else (c :: (pieces x t).headD []) :: (pieces x t).tail := rfl

theorem pieces_ne_nil {α : Type} [DecidableEq α] (x : α) (t : List α) : pieces x t ≠ [] := by
  cases t with
  | nil => simp
  | cons c t => rw [pieces_cons]; split <;> simp

theorem joined_pieces (x : Char) (t : Text) : joined [x] (pieces x t) = t := by
  induction t with
  | nil => rfl
  | cons c t ih =>
    rw [pieces_cons]
    obtain ⟨p, ps, h⟩ := List.exists_cons_of_ne_nil (pieces_ne_nil x t)
    rw [h] at ih ⊢
    split
    · next hc => subst hc; simp [joined, ih]
    · cases ps <;> simp_all [joined]

theorem not_mem_of_mem_pieces {α : Type} [DecidableEq α] {x : α} {t p : List α}
    (h : p ∈ pieces x t) : x ∉ p := by
  induction t generalizing p with
  | nil => simp_all
  | cons c t ih =>
    rw [pieces_cons] at h
    obtain ⟨q, qs, hq⟩ := List.exists_cons_of_ne_nil (pieces_ne_nil x t)
    rw [hq] at h ih
    split at h
    · grind
    · grind

end Text

end SchemaSheet
