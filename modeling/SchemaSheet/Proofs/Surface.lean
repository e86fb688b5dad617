import SchemaSheet.Proofs.Comment
import SchemaSheet.Proofs.Line
import SchemaSheet.Schema.Reading

/-! The surface form of tables: a header, a line per column and a closing brace. Reading it gives
the tables back, whatever the defaults and comments hold, and notices nothing but names that come
again. -/

namespace SchemaSheet

open Text

structure Attributes.WellFormed (a : Attributes) : Prop where
  default_line : '\n' ∉ a.defaultValue
  default_at : '@' ∉ a.defaultValue
  default_balanced : Balanced a.defaultValue
  /-- Double slashes stand inside string literals. -/
  default_slashes : ∀ p r, a.defaultValue = p ++ '/' :: '/' :: r →
    Literal.outside.after p ≠ .outside
  comment_line : '\n' ∉ a.comment
  comment_at : '@' ∉ a.comment
  comment_trim : trim a.comment = a.comment

structure Column.WellFormed (c : Column) : Prop extends c.toAttributes.WellFormed where
  name_run : IsRun isWord c.name
  type_form : ∃ base, IsRun isWord base ∧ (c.dataType = base ∨ c.dataType = base ++ ['[', ']'])

structure Table.WellFormed (t : Table) : Prop where
  name_run : IsRun isWord t.name
  columns : ∀ c ∈ t.columns, c.WellFormed

namespace Surface

def part (b : Bool) (t : Text) : Text := if b then t else []

def comment (a : Attributes) : Text := part (a.comment != []) (" // ".toList ++ a.comment)

def defaultValue (a : Attributes) : Text :=
  part (a.defaultValue != []) (" @default(".toList ++ (a.defaultValue ++ [')']))

def attributes (a : Attributes) : Text :=
  part a.primaryKey " @id".toList ++
    (part a.unique " @unique".toList ++ (defaultValue a ++ comment a))

def type (c : Column) : Text := c.dataType ++ part c.nullable ['?']

def column (c : Column) : Text := c.name ++ ([' '] ++ (type c ++ attributes c.toAttributes))

def header (t : Table) : Text := "model".toList ++ ([' '] ++ (t.name ++ [' ', '{']))

def lines (t : Table) : List Text := header t :: t.columns.map column ++ [['}']]

/-- The tables as a schema. -/
def text (ts : List Table) : Text := joined ['\n'] (ts.flatMap lines)

/-- The number of the line on which the next table begins. -/
def headerLine (before : List Table) : Nat :=
  1 + (before.flatMap lines).length

/-- One notice for each table that an earlier one shares its name with, at its header. -/
def repeats (ts : List Table) : List Notice :=
  (prefixed ts).flatMap fun (before, t) =>
    if before.any (·.name == t.name) then [.duplicate (headerLine before) t.name] else []

/-- Parts begin with a space. -/
def Spaced (t : Text) : Prop := ∀ c, t.head? = some c → c = ' '

theorem spaced_part (b : Bool) (s : Text) {t : Text} (ht : Spaced t) :
    Spaced (part b (' ' :: s) ++ t) := by
  cases b with
  | false => exact ht
  | true =>
    intro c hc
    cases hc
    rfl

theorem Spaced.stops {p : Char → Bool} {t : Text} (h : Spaced t) (hp : p ' ' = false) :
    Stops p t := by
  intro c hc
  rw [h c hc, hp]

theorem Spaced.atWordEnd {t : Text} (h : Spaced t) : atWordEnd t = true := by
  cases t with
  | nil => rfl
  | cons c t =>
    rw [h c rfl]
    rfl

theorem spaced_comment (a : Attributes) : Spaced (comment a) := by
  have := spaced_part (a.comment != []) ("// ".toList ++ a.comment) (t := [])
    (by intro c h; cases h)
  rwa [List.append_nil] at this

theorem spaced_default (a : Attributes) : Spaced (defaultValue a ++ comment a) :=
  spaced_part _ _ (spaced_comment a)

theorem spaced_unique (a : Attributes) :
    Spaced (part a.unique " @unique".toList ++ (defaultValue a ++ comment a)) :=
  spaced_part _ _ (spaced_default a)

theorem spaced_attributes (a : Attributes) : Spaced (attributes a) :=
  spaced_part _ _ (spaced_unique a)

theorem marked_own (b : Bool) (m : Text) {t : Text} (ht : Spaced t) :
    Attributes.marked ('@' :: m) (part b (' ' :: '@' :: m) ++ t) =
      (b || Attributes.marked ('@' :: m) t) := by
  cases b with
  | false => rfl
  | true =>
    rw [part, if_pos rfl, List.cons_append, Attributes.marked_cons_of_ne (by decide),
      List.cons_append, Attributes.marked, ← List.cons_append, after?_append]
    simp [ht.atWordEnd]

/-- A marker is not found in the part of another one. -/
theorem marked_other (b : Bool) {m s : Text} (hs : '@' ∉ s)
    (h : ∀ u, after? ('@' :: m) ('@' :: (s ++ u)) = none) (t : Text) :
    Attributes.marked ('@' :: m) (part b (' ' :: '@' :: s) ++ t) =
      Attributes.marked ('@' :: m) t := by
  cases b with
  | false => rfl
  | true =>
    rw [part, if_pos rfl, List.cons_append, Attributes.marked_cons_of_ne (by decide),
      List.cons_append, Attributes.marked, h, Attributes.marked_append hs]
    rfl

theorem default?_other (b : Bool) {s : Text} (hs : '@' ∉ s)
    (h : ∀ u, after? "@default".toList ('@' :: (s ++ u)) = none) (t : Text) :
    Attributes.default? (part b (' ' :: '@' :: s) ++ t) = Attributes.default? t := by
  cases b with
  | false => rfl
  | true =>
    have hopened : Attributes.opened? ('@' :: (s ++ t)) = none := by
      rw [Attributes.opened?, h]
      rfl
    rw [part, if_pos rfl, List.cons_append, Attributes.default?_cons_of_ne (by decide),
      List.cons_append, Attributes.default?, hopened, Attributes.default?_append hs]
    rfl

theorem at_not_mem_comment {a : Attributes} (h : a.WellFormed) : '@' ∉ comment a := by
  unfold comment part
  split
  · simpa using h.comment_at
  · exact List.not_mem_nil

/-- A marker that is not a default's is not found behind the other markers. -/
theorem marked_default {a : Attributes} (h : a.WellFormed) {c : Char} (hc : c ≠ 'd') (m : Text) :
    Attributes.marked ('@' :: c :: m) (defaultValue a ++ comment a) = false := by
  have hat : '@' ∉ "default(".toList ++ (a.defaultValue ++ [')']) := by
    simpa using h.default_at
  have hne (u : Text) :
      after? ('@' :: c :: m) ('@' :: ("default(".toList ++ (a.defaultValue ++ [')']) ++ u)) =
        none := by
    simp [after?, hc]
  have hpart := marked_other (a.defaultValue != []) hat hne (comment a)
  exact hpart.trans (Attributes.marked_of_not_mem (at_not_mem_comment h) (c :: m))

theorem marked_id {a : Attributes} (h : a.WellFormed) :
    Attributes.marked "@id".toList (attributes a) = a.primaryKey :=
  calc Attributes.marked "@id".toList (attributes a)
    _ = (a.primaryKey || Attributes.marked "@id".toList
          (part a.unique " @unique".toList ++ (defaultValue a ++ comment a))) :=
        marked_own a.primaryKey "id".toList (spaced_unique a)
    _ = (a.primaryKey || Attributes.marked "@id".toList (defaultValue a ++ comment a)) :=
        congrArg (a.primaryKey || ·) (marked_other a.unique (m := "id".toList)
          (s := "unique".toList) (by decide) (fun u => rfl) _)
    _ = (a.primaryKey || false) :=
        congrArg (a.primaryKey || ·) (marked_default h (c := 'i') (by decide) "d".toList)
    _ = a.primaryKey := Bool.or_false _

theorem marked_unique {a : Attributes} (h : a.WellFormed) :
    Attributes.marked "@unique".toList (attributes a) = a.unique :=
  calc Attributes.marked "@unique".toList (attributes a)
    _ = Attributes.marked "@unique".toList
          (part a.unique " @unique".toList ++ (defaultValue a ++ comment a)) :=
        marked_other a.primaryKey (m := "unique".toList) (s := "id".toList) (by decide)
          (fun u => rfl) _
    _ = (a.unique || Attributes.marked "@unique".toList (defaultValue a ++ comment a)) :=
        marked_own a.unique "unique".toList (spaced_default a)
    _ = (a.unique || false) :=
        congrArg (a.unique || ·) (marked_default h (c := 'u') (by decide) "nique".toList)
    _ = a.unique := Bool.or_false _

theorem default?_attributes {a : Attributes} (h : a.WellFormed) :
    Attributes.default? (attributes a) =
      if a.defaultValue = [] then none else some (a.defaultValue ++ ')' :: comment a) := by
  have hid := default?_other a.primaryKey (s := "id".toList) (by decide) (fun u => rfl)
    (part a.unique " @unique".toList ++ (defaultValue a ++ comment a))
  have hunique := default?_other a.unique (s := "unique".toList) (by decide) (fun u => rfl)
    (defaultValue a ++ comment a)
  refine hid.trans (hunique.trans ?_)
  unfold defaultValue
  by_cases hd : a.defaultValue = []
  · have hcomment := Attributes.default?_of_not_mem (at_not_mem_comment h)
    simp [hd, part, hcomment]
  · simp [hd, part, Attributes.default?, Attributes.opened?, after?, trimStart, isBlank]

theorem comment?_default {a : Attributes} (h : a.WellFormed) :
    Attributes.comment? .outside (defaultValue a ++ comment a) =
      Attributes.comment? .outside (comment a) := by
  unfold defaultValue
  by_cases hd : a.defaultValue = []
  · simp [hd, part]
  · have hpart : part (a.defaultValue != []) (" @default(".toList ++ (a.defaultValue ++ [')'])) ++
        comment a = " @default(".toList ++ (a.defaultValue ++ ')' :: comment a) := by
      simp [hd, part]
    rw [hpart, Attributes.comment?_of_not_mem (by decide)]
    have hstate : Literal.outside.after " @default(".toList = .outside := rfl
    rw [hstate, Attributes.comment?_append h.default_slashes (by simp), h.default_balanced.after,
      Attributes.comment?_cons_of_ne (by decide)]
    rfl

theorem comment?_attributes {a : Attributes} (h : a.WellFormed) :
    Attributes.comment? .outside (attributes a) =
      if a.comment = [] then none else some (' ' :: a.comment) := by
  have hskip (b : Bool) {s : Text} (hs : '/' ∉ s) (hq : Literal.outside.after s = .outside)
      (t : Text) : Attributes.comment? .outside (part b s ++ t) =
        Attributes.comment? .outside t := by
    cases b with
    | false => rfl
    | true => rw [part, if_pos rfl, Attributes.comment?_of_not_mem hs, hq]
  rw [attributes, hskip _ (by decide) rfl, hskip _ (by decide) rfl, comment?_default h]
  unfold comment
  by_cases hc : a.comment = []
  · simp [hc, part, Attributes.comment?]
  · simp [hc, part, Attributes.comment?, after?, Literal.next]

theorem tidy_cons_space {t : Text} (h : trim t = t) : Attributes.tidy (' ' :: t) = t := by
  have hstart : trimStart (' ' :: t) = trimStart t := rfl
  rw [Attributes.tidy, List.dropWhile_cons_of_neg (by decide), trim, hstart]
  exact h

theorem ofText_attributes {a : Attributes} (h : a.WellFormed) :
    Attributes.ofText (attributes a) = a := by
  have hdefault : ((Attributes.default? (attributes a)).map Attributes.argument).getD [] =
      a.defaultValue := by
    rw [default?_attributes h]
    split
    · next hd => rw [hd]; rfl
    · exact Attributes.argument_append h.default_balanced _
  have hcomment : ((Attributes.comment? .outside (attributes a)).map Attributes.tidy).getD [] =
      a.comment := by
    rw [comment?_attributes h]
    split
    · next hc => rw [hc]; rfl
    · exact tidy_cons_space h.comment_trim
  rw [Attributes.ofText, Attributes.trailingComment?_eq, marked_id h, marked_unique h, hdefault,
    hcomment]

end Surface

end SchemaSheet
