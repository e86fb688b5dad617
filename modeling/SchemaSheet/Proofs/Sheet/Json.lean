import SchemaSheet.Proofs.Text
import SchemaSheet.Sheet.Json
import SchemaSheet.Text.Literal
import SchemaSheet.Text.Numeral

/-! Reading JSON back, as far as sheets need it: strings with the standard escapes, arrays and
objects, with blanks between any two tokens. A written string is read as the text that it stands
for, and a written sheet as an array of one object per row. -/

namespace SchemaSheet.Json

open Text

inductive Value where
  | text (t : Text)
  | array (items : List Value)
  | object (entries : List (Text × Value))

def isSpace (c : Char) : Bool := c == ' ' || c == '\n' || c == '\r' || c == '\t'

def skip (t : Text) : Text := t.dropWhile isSpace

def short? : Char → Option Char
  | '"' => some '"'
  | '\\' => some '\\'
  | '/' => some '/'
  | 'b' => some '\x08'
  | 'f' => some '\x0C'
  | 'n' => some '\n'
  | 'r' => some '\r'
  | 't' => some '\t'
  | _ => none

/-- The rest of a string, up to its closing quote, and what follows it. -/
def string? : Text → Option (Text × Text)
  | [] => none
  | c :: cs =>
    if c = '"' then some ([], cs)
    else if c = '\\' then
      match cs with
      | 'u' :: h :: i :: j :: k :: rest => do
        let d ← hexChar? [h, i, j, k]
        (string? rest).map fun (t, r) => (d :: t, r)
      | e :: rest => do
        let d ← short? e
        (string? rest).map fun (t, r) => (d :: t, r)
      | [] => none
    else if c.toNat < 0x20 then none
    else (string? cs).map fun (t, r) => (c :: t, r)

/-- Values with commas between them, up to a closing character, and what follows it. -/
def list? {α : Type} (item : Text → Option (α × Text)) (close : Char) :
    Nat → Text → Option (List α × Text)
  | 0, _ => none
  | n + 1, t => do
    let (a, r) ← item t
    match skip r with
    | [] => none
    | c :: r =>
      if c = close then some ([a], r)
      else if c = ',' then (list? item close n r).map fun (as, r) => (a :: as, r)
      else none

def member? (value : Text → Option (Value × Text)) (t : Text) :
    Option ((Text × Value) × Text) := do
  let (key, r) ← string? (← after? ['"'] (skip t))
  let (v, r) ← value (← after? [':'] (skip r))
  return ((key, v), r)

/-- The value that a text begins with, and what follows it, if it is nested and as long as the
number allows. -/
def value? : Nat → Text → Option (Value × Text)
  | 0, _ => none
  | n + 1, t =>
    match skip t with
    | '"' :: r => (string? r).map fun (s, r) => (.text s, r)
    | '[' :: r =>
      match after? [']'] (skip r) with
      | some r => some (.array [], r)
      | none => (list? (value? n) ']' n r).map fun (vs, r) => (.array vs, r)
    | '\x7b' :: r =>
      match after? ['\x7d'] (skip r) with
      | some r => some (.object [], r)
      | none => (list? (member? (value? n)) '\x7d' n r).map fun (es, r) => (.object es, r)
    | _ => none

/-- The value of a text. -/
def read? (t : Text) : Option Value := do
  let (v, r) ← value? (t.length + 1) t
  if skip r = [] then some v else none

def ofCells (p : Projection) (row : Row) : Value :=
  .object ((row.mapping p).map fun e => (e.1, .text e.2))

theorem hexChar?_control : ∀ n < 0x20,
    hexChar? ['0', '0', hexDigit (n / 16), hexDigit n] = some (Char.ofNat n) := by decide

theorem string?_quote (t : Text) : string? ('"' :: t) = some ([], t) := by
  rw [string?.eq_def]
  rfl

theorem string?_plain {c : Char} (hquote : c ≠ '"') (hback : c ≠ '\\')
    (hcontrol : ¬ c.toNat < 0x20) (t : Text) :
    string? (c :: t) = (string? t).map fun (s, r) => (c :: s, r) := by
  rw [string?.eq_def]
  simp only [hquote, hback, hcontrol, if_false]

theorem string?_escaped (c : Char) (t : Text) :
    string? (escaped c ++ t) = (string? t).map fun (s, r) => (c :: s, r) := by
  unfold escaped
  split
  case h_8 hquote hback _ _ _ _ _ =>
    split
    · next hcontrol =>
      have hlong := hexChar?_control c.toNat hcontrol
      rw [Char.ofNat_toNat] at hlong
      simp [string?, hlong]
    · next hcontrol => exact string?_plain hquote hback hcontrol t
  all_goals simp [string?, short?]

theorem string?_flatMap_escaped (s t : Text) :
    string? (s.flatMap escaped ++ '"' :: t) = some (s, t) := by
  induction s with
  | nil => exact string?_quote t
  | cons c s ih => rw [List.flatMap_cons, List.append_assoc, string?_escaped, ih]; rfl

theorem skip_append {s : Text} (hs : s.all isSpace = true) {c : Char} (hc : isSpace c = false)
    (t : Text) : skip (s ++ c :: t) = c :: t :=
  dropWhile_append (List.all_eq_true.1 hs) (stops_cons hc)

theorem value?_ofText (n : Nat) (s t : Text) :
    value? (n + 1) (' ' :: (ofText s ++ t)) = some (.text s, t) := by
  have hskip : skip (' ' :: (ofText s ++ t)) = '"' :: (s.flatMap escaped ++ '"' :: t) := by
    have := skip_append (s := [' ']) (by decide) (c := '"') (by decide)
      (s.flatMap escaped ++ '"' :: t)
    simpa [ofText] using this
  rw [value?, hskip]
  simp [string?_flatMap_escaped]

/-- Behind any blanks, what `write` writes is read as what `value` says. -/
def Reads {α β : Type} (item : Text → Option (β × Text)) (write : α → Text) (value : α → β) :
    Prop :=
  ∀ a (gap : Text), gap.all isSpace = true → ∀ t, item (gap ++ (write a ++ t)) = some (value a, t)

theorem list?_joined {α β : Type} {item : Text → Option (β × Text)} {write : α → Text}
    {value : α → β} (hitem : Reads item write value) {close : Char} (hclose : close ≠ ',')
    {ending : Text} (hending : ∀ t, skip (ending ++ t) = close :: t) {as : List α} (hne : as ≠ [])
    {n : Nat} (hn : as.length ≤ n) (gap : Text) (hgap : gap.all isSpace = true) (t : Text) :
    list? item close n (gap ++ (joined ",\n".toList (as.map write) ++ (ending ++ t))) =
      some (as.map value, t) := by
  induction as generalizing n gap with
  | nil => exact absurd rfl hne
  | cons a as ih =>
    cases n with
    | zero => simp at hn
    | succ n =>
      by_cases has : as = []
      · subst has
        simp [list?, joined, hitem a gap hgap, hending]
      · have hcomma (u : Text) : skip (",\n".toList ++ u) = ',' :: (['\n'] ++ u) := by rfl
        have hrest := ih has (Nat.le_of_succ_le_succ hn) ['\n'] (by decide)
        rw [List.map_cons, joined_cons _ _ (by simpa using has), List.append_assoc,
          List.append_assoc, list?, hitem a gap hgap]
        simp only [Option.bind_eq_bind, Option.bind_some, hcomma, hclose.symm, if_false, if_true,
          hrest]
        rfl

theorem ofEntry_append (e : Text × Text) (t : Text) : ofEntry e ++ t = "    ".toList ++
    '"' :: (e.1.flatMap escaped ++ '"' :: (':' :: ' ' :: (ofText e.2 ++ t))) := by
  have hentry : ofEntry e =
      "    ".toList ++ ('"' :: e.1.flatMap escaped ++ ['"']) ++ ": ".toList ++ ofText e.2 := rfl
  rw [hentry]
  simp

theorem reads_ofEntry (n : Nat) :
    Reads (member? (value? (n + 1))) ofEntry fun e => (e.1, .text e.2) := by
  intro e gap hgap t
  have hspaces : (gap ++ "    ".toList).all isSpace = true := by
    rw [List.all_append, hgap]
    rfl
  have hquote : skip (gap ++ (ofEntry e ++ t)) =
      '"' :: (e.1.flatMap escaped ++ '"' :: (':' :: ' ' :: (ofText e.2 ++ t))) := by
    rw [ofEntry_append, ← List.append_assoc]
    exact skip_append hspaces (by decide) _
  have hcolon (u : Text) : skip (':' :: u) = ':' :: u :=
    skip_append (s := []) (by simp) (by decide) u
  simp [member?, hquote, after?, string?_flatMap_escaped, hcolon, value?_ofText]

theorem ofRow_eq (p : Projection) (row : Row) : ofRow p row = "  \x7b\n".toList ++
    joined ",\n".toList ((row.mapping p).map ofEntry) ++ "\n  \x7d".toList := rfl

theorem ofRow_append (p : Projection) (row : Row) (t : Text) : ofRow p row ++ t = "  ".toList ++
    '\x7b' :: (['\n'] ++ (joined ",\n".toList ((row.mapping p).map ofEntry) ++
      ("\n  \x7d".toList ++ t))) := by
  rw [ofRow_eq]
  simp

theorem skip_ofRow (p : Projection) (row : Row) {gap : Text}
    (hgap : gap.all isSpace = true) (t : Text) :
    skip (gap ++ (ofRow p row ++ t)) =
      '\x7b' :: (['\n'] ++ (joined ",\n".toList ((row.mapping p).map ofEntry) ++
        ("\n  \x7d".toList ++ t))) := by
  have hspaces : (gap ++ "  ".toList).all isSpace = true := by
    rw [List.all_append, hgap]
    rfl
  rw [ofRow_append, ← List.append_assoc]
  exact skip_append hspaces (by decide) _

theorem reads_ofRow {n : Nat} {p : Projection} (hn : p.headings.length < n) :
    Reads (value? (n + 1)) (ofRow p) (ofCells p) := by
  intro row gap hgap t
  obtain ⟨m, rfl⟩ : ∃ m, n = m + 1 := ⟨n - 1, by omega⟩
  have hending (u : Text) : skip ("\n  \x7d".toList ++ u) = '\x7d' :: u := by rfl
  have hentries := list?_joined (reads_ofEntry m) (by decide) hending (row.mapping_ne_nil p)
    (n := m + 1) (by rw [row.length_mapping]; omega) ['\n'] (by decide) t
  have hfirst : after? ['\x7d'] (skip (['\n'] ++ (joined ",\n".toList
      ((row.mapping p).map ofEntry) ++ ("\n  \x7d".toList ++ t)))) = none := by
    -- either projection has a first heading, so the object is not taken for an empty one
    rw [row.mapping_eq_map]
    cases p <;> rfl
  rw [value?, skip_ofRow p row hgap]
  simp only [hentries, hfirst]
  rfl

theorem length_ofRow (p : Projection) (row : Row) : 8 ≤ (ofRow p row).length := by
  rw [ofRow_eq]
  simp

theorem read?_render (rows : List Row) (p : Projection) :
    read? (render rows p) = some (.array (rows.map (ofCells p))) := by
  cases hrows : rows with
  | nil => rfl
  | cons first rest =>
    rw [← hrows]
    have hne : rows ≠ [] := hrows ▸ List.cons_ne_nil _ _
    have hrender : render rows p = '[' :: (['\n'] ++ (joined ",\n".toList (rows.map (ofRow p)) ++
        ("\n]".toList ++ ['\n']))) := by
      simp [render, hrows]
    have hlen : 8 * rows.length + 5 ≤ (render rows p).length := by
      have hrow : ∀ t ∈ rows.map (ofRow p), 8 ≤ t.length := by
        intro t ht
        obtain ⟨row, -, rfl⟩ := List.mem_map.1 ht
        exact length_ofRow p row
      have := mul_length_le_joined ",\n".toList hrow
      rw [hrender]
      simp only [List.length_map, List.length_cons, List.length_append, List.length_nil,
        String.reduceToList] at this ⊢
      omega
    have hpos := List.length_pos_iff.2 hne
    have hheadings := p.length_headings_le
    obtain ⟨n, hn⟩ : ∃ n, (render rows p).length = n + 1 :=
      ⟨(render rows p).length - 1, by omega⟩
    have hending (u : Text) : skip ("\n]".toList ++ u) = ']' :: u := by rfl
    have hitems := list?_joined (reads_ofRow (n := n) (p := p) (by omega)) (by decide) hending hne
      (n := n + 1) (by omega) ['\n'] (by decide) ['\n']
    have hbracket : skip (render rows p) = render rows p := by
      rw [hrender]
      exact skip_append (s := []) (by simp) (by decide) _
    have hfirst : after? [']'] (skip (['\n'] ++ (joined ",\n".toList (rows.map (ofRow p)) ++
        ("\n]".toList ++ ['\n'])))) = none := by
      obtain ⟨u, hu⟩ := prefix_joined ",\n".toList (ofRow p first) (rest.map (ofRow p))
      rw [hrows, List.map_cons, ← hu, List.append_assoc, skip_ofRow p first (by decide)]
      rfl
    rw [read?, hn, value?, hbracket, hrender]
    simp only [hfirst, hitems]
    rfl

theorem ofCells_eq (p : Projection) (row : Row) :
    ofCells p row = .object (p.titles.zip ((row.cells p).map .text)) := by
  rw [ofCells, row.mapping_eq_zip, List.zip_map_right]
  rfl

theorem exists_render_eq (rows : List Row) (p : Projection) :
    ∃ t, render rows p = t ++ ['\n'] ∧ t.getLast? = some ']' := by
  cases rows with
  | nil => exact ⟨['[', ']'], rfl, rfl⟩
  | cons row rows =>
    refine ⟨"[\n".toList ++ joined ",\n".toList ((row :: rows).map (ofRow p)) ++ "\n]".toList,
      by simp [render], ?_⟩
    rw [List.getLast?_append]
    rfl

section Inside

/-- The characters of a text that stand inside of its strings; the quotes around them do not. -/
def insides (l : Literal) : Text → Text
  | [] => []
  | c :: cs => (if l = .outside ∨ l.next c = .outside then [] else [c]) ++ insides (l.next c) cs

theorem insides_append (l : Literal) (a b : Text) :
    insides l (a ++ b) = insides l a ++ insides (l.after a) b := by
  induction a generalizing l with
  | nil => rfl
  | cons c a ih =>
    rw [List.cons_append, insides, insides, ih, List.append_assoc, Literal.after_cons]

/-- The text leads back to where it begins, and has no control characters inside of strings. -/
def Clean (l : Literal) (t : Text) : Prop :=
  l.after t = l ∧ ∀ c ∈ insides l t, 0x20 ≤ c.toNat

instance (l : Literal) (t : Text) : Decidable (Clean l t) :=
  decidable_of_iff
    ((l.after t == l && (insides l t).all fun c => Nat.ble 0x20 c.toNat) = true)
    (by simp [Clean])

theorem Clean.append {l : Literal} {a b : Text} (ha : Clean l a) (hb : Clean l b) :
    Clean l (a ++ b) := by
  refine ⟨by rw [Literal.after_append, ha.1, hb.1], fun c hc => ?_⟩
  rw [insides_append, ha.1, List.mem_append] at hc
  rcases hc with hc | hc
  · exact ha.2 c hc
  · exact hb.2 c hc

theorem clean_flatMap {α : Type} {l : Literal} {f : α → Text} {as : List α}
    (h : ∀ a ∈ as, Clean l (f a)) : Clean l (as.flatMap f) := by
  induction as with
  | nil => exact ⟨rfl, by simp [insides]⟩
  | cons a as ih =>
    rw [List.flatMap_cons]
    exact (h a List.mem_cons_self).append (ih fun b hb => h b (List.mem_cons_of_mem a hb))

theorem clean_joined {l : Literal} {gap : Text} (hgap : Clean l gap) {ts : List Text}
    (h : ∀ t ∈ ts, Clean l t) : Clean l (joined gap ts) := by
  induction ts with
  | nil => exact ⟨rfl, by simp [joined, insides]⟩
  | cons t ts ih =>
    have ht := h t List.mem_cons_self
    by_cases hts : ts = []
    · rwa [hts, joined]
    · rw [joined_cons gap t hts]
      exact (ht.append hgap).append (ih fun u hu => h u (List.mem_cons_of_mem t hu))

theorem clean_control : ∀ n < 0x20,
    Clean .inside ['\\', 'u', '0', '0', hexDigit (n / 16), hexDigit n] := by decide

theorem clean_escaped (c : Char) : Clean .inside (escaped c) := by
  unfold escaped
  split
  case h_8 hquote hback _ _ _ _ _ =>
    split
    · next hcontrol => exact clean_control c.toNat hcontrol
    · next hcontrol =>
      have hstay : Literal.inside.next c = .inside := by
        rw [Literal.next, if_neg hback, if_neg hquote]
      simpa [Clean, insides, hstay] using hcontrol
  all_goals decide

theorem clean_ofText (t : Text) : Clean .outside (ofText t) := by
  have hbody : Clean .inside (t.flatMap escaped) := clean_flatMap fun c _ => clean_escaped c
  have hinsides : insides .outside (ofText t) = insides .inside (t.flatMap escaped) := by
    have hstart : insides .outside (ofText t) =
        insides .inside (t.flatMap escaped ++ ['"']) := rfl
    have hend : insides .inside ['"'] = [] := rfl
    rw [hstart, insides_append, hbody.1, hend, List.append_nil]
  have hend : Literal.outside.after (ofText t) = .outside := by
    have hstart : Literal.outside.after (ofText t) =
        Literal.inside.after (t.flatMap escaped ++ ['"']) := rfl
    rw [hstart, Literal.after_append, hbody.1]
    rfl
  exact ⟨hend, by rw [hinsides]; exact hbody.2⟩

theorem clean_ofRow (p : Projection) (row : Row) : Clean .outside (ofRow p row) := by
  have hentries : Clean .outside (joined ",\n".toList ((row.mapping p).map ofEntry)) := by
    refine clean_joined (by decide) fun t ht => ?_
    obtain ⟨e, -, rfl⟩ := List.mem_map.1 ht
    have hindent : Clean .outside "    ".toList := by decide
    have hcolon : Clean .outside ": ".toList := by decide
    exact ((hindent.append (clean_ofText e.1)).append hcolon).append (clean_ofText e.2)
  have hopen : Clean .outside "  \x7b\n".toList := by decide
  have hclose : Clean .outside "\n  \x7d".toList := by decide
  exact (hopen.append hentries).append hclose

/-- A sheet has no control characters inside of its strings. -/
theorem clean_render (rows : List Row) (p : Projection) : Clean .outside (render rows p) := by
  unfold render
  split
  · decide
  · have hrows : Clean .outside (joined ",\n".toList (rows.map (ofRow p))) := by
      refine clean_joined (by decide) fun t ht => ?_
      obtain ⟨row, -, rfl⟩ := List.mem_map.1 ht
      exact clean_ofRow p row
    have hopen : Clean .outside "[\n".toList := by decide
    have hclose : Clean .outside "\n]\n".toList := by decide
    exact (hopen.append hrows).append hclose

end Inside

end SchemaSheet.Json
