import SchemaSheet.Text.Basic

/-! A tree of files: what there is at each place, a place being the names on the way to it from the
root. Looking up a place is all that later modules rely on. There are no links and no permissions:
whatever is there can be read and written. -/

namespace SchemaSheet

abbrev Place := List Text

inductive Entry where
  | directory
  | file (bytes : List UInt8)
  /-- The null device, which takes what is written to it and holds nothing. -/
  | sink
  deriving DecidableEq, Repr

/-- What is at a place, if anything, once bytes are written to it. -/
def Entry.written (bytes : List UInt8) : Option Entry → Entry
  | some sink => sink
  | _ => file bytes

structure Files where
  entries : List (Place × Entry) := []
  /-- The working directory. -/
  here : Place := []
  deriving DecidableEq, Repr

namespace Files

/-- What there is at a place. The root is always a directory. -/
def find? (fs : Files) (p : Place) : Option Entry :=
  if p = [] then some .directory else fs.entries.lookup p

def isDirectory (fs : Files) (p : Place) : Bool := fs.find? p == some .directory

def replaced (p : Place) (e : Entry) : List (Place × Entry) → List (Place × Entry)
  | [] => [(p, e)]
  | (q, f) :: rest => if q = p then (q, e) :: rest else (q, f) :: replaced p e rest

def put (fs : Files) (p : Place) (e : Entry) : Files :=
  { fs with entries := replaced p e fs.entries }

theorem lookup_cons_eq (q r : Place) (f : Entry) (l : List (Place × Entry)) :
    List.lookup q ((r, f) :: l) = if q = r then some f else l.lookup q := by
  rw [List.lookup_cons]
  by_cases h : q = r
  · simp [h]
  · have : (q == r) = false := by simpa using h
    simp [h, this]

theorem lookup_replaced (p q : Place) (e : Entry) (l : List (Place × Entry)) :
    (replaced p e l).lookup q = if q = p then some e else l.lookup q := by
  induction l with
  | nil => simp [replaced, lookup_cons_eq]
  | cons x l ih =>
    obtain ⟨r, f⟩ := x
    by_cases hr : r = p
    · subst hr
      by_cases h : q = r <;> simp [replaced, lookup_cons_eq, h]
    · by_cases h : q = r
      · subst h
        simp [replaced, hr]
      · simp [replaced, lookup_cons_eq, hr, h, ih]

/-- Putting an entry changes what there is at its place and nothing else. -/
theorem find?_put (fs : Files) (p q : Place) (e : Entry) (h : p ≠ []) :
    (fs.put p e).find? q = if q = p then some e else fs.find? q := by
  unfold find? put
  by_cases hq : q = []
  · simp [hq, Ne.symm h]
  · simp [hq, lookup_replaced]

theorem here_put (fs : Files) (p : Place) (e : Entry) : (fs.put p e).here = fs.here := rfl

end Files

end SchemaSheet
