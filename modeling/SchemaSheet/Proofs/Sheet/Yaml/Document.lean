import SchemaSheet.Proofs.Sheet.Yaml.Scalar
import SchemaSheet.Sheet.Yaml.Document

/-! Reading the YAML of a sheet back, a sequence of mappings of texts: the pairs are read one after
the other, and a dash in front of a pair begins another mapping. -/

namespace SchemaSheet.Yaml

open Text

structure Pair where
  /-- Whether a mapping begins here. -/
  first : Bool
  key : Text
  value : Text
  deriving DecidableEq, Repr

def Pair.entry (e : Pair) : Text × Text := (e.key, e.value)

def pair? (t : Text) : Option (Pair × Text) := do
  let (first, r) ←
    match after? "- ".toList t with
    | some r => some (true, r)
    | none => (after? "  ".toList t).map (false, ·)
  let (value, rest) ← scalar? (← after? ": ".toList (r.dropWhile (· != ':')))
  return (⟨first, r.takeWhile (· != ':'), value⟩, rest)

def pairs? : Nat → Text → Option (List Pair)
  | _, [] => some []
  | 0, _ :: _ => none
  | n + 1, t => do
    let (e, r) ← pair? t
    (pairs? n r).map (e :: ·)

/-- Puts a pair before mappings; the pairs that are `pending` still lack the beginning of theirs. -/
def prepend (e : Pair) : Mapping × List Mapping → Mapping × List Mapping
  | (pending, mappings) =>
    if e.first then ([], (e.entry :: pending) :: mappings) else (e.entry :: pending, mappings)

/-- The mappings of a document. -/
def read? (t : Text) : Option (List Mapping) := do
  if t = "[]\n".toList then return []
  let (pending, mappings) := (← pairs? t.length t).foldr prepend ([], [])
  if pending = [] then return mappings else none

/-- A key that is written as it is. -/
def IsKey (key : Text) : Prop := ':' ∉ key ∧ ∃ c cs, key = c :: cs ∧ c ≠ ' ' ∧ isBreak c = false

theorem isKey_title (h : Heading) : IsKey h.title := by
  cases h <;> exact ⟨by decide, _, _, rfl, by decide, by decide⟩

def Pair.written (e : Pair) : Text :=
  (if e.first then "- ".toList else "  ".toList) ++ (e.key ++ (": ".toList ++ ofText e.value))

theorem atMargin_written {e : Pair} (h : IsKey e.key) (t : Text) : AtMargin (e.written ++ t) := by
  obtain ⟨-, c, cs, hkey, hspace, hbreak⟩ := h
  unfold AtMargin Pair.written
  cases e.first with
  | true => rfl
  | false =>
    have hgap : isBreak ' ' = false := rfl
    rw [hkey]
    simp [literalLines, indent, hgap, hspace, hbreak]

theorem atMargin_flatMap_written {es : List Pair} (h : ∀ e ∈ es, IsKey e.key) :
    AtMargin (es.flatMap Pair.written) := by
  cases es with
  | nil => rfl
  | cons e es => exact atMargin_written (h e List.mem_cons_self) _

theorem pair?_written {e : Pair} (h : IsKey e.key) {r : Text} (hr : AtMargin r) :
    pair? (e.written ++ r) = some (e, r) := by
  obtain ⟨first, key, value⟩ := e
  have hclass : ∀ c ∈ key, (c != ':') = true := by
    intro c hc
    simp only [bne_iff_ne]
    rintro rfl
    exact h.1 hc
  have hstop : Stops (· != ':') (": ".toList ++ (ofText value ++ r)) := stops_cons (by decide)
  have hkey := takeWhile_append hclass hstop
  have hvalue := dropWhile_append hclass hstop
  have hdash (t : Text) : after? "- ".toList ("  ".toList ++ t) = none := by rfl
  unfold pair? Pair.written
  cases first with
  | true =>
    simp only [if_true, List.append_assoc, after?_append, Option.bind_eq_bind, Option.bind_some,
      hkey, hvalue, scalar?_ofText value hr]
    rfl
  | false =>
    simp only [Bool.false_eq_true, if_false, List.append_assoc, hdash, after?_append,
      Option.map_some, Option.bind_eq_bind, Option.bind_some, hkey, hvalue, scalar?_ofText value hr]
    rfl

theorem pairs?_flatMap_written {es : List Pair} (h : ∀ e ∈ es, IsKey e.key) {n : Nat}
    (hn : es.length ≤ n) : pairs? n (es.flatMap Pair.written) = some es := by
  induction es generalizing n with
  | nil => cases n <;> rfl
  | cons e es ih =>
    have htail : ∀ e ∈ es, IsKey e.key := fun f hf => h f (List.mem_cons_of_mem e hf)
    have hpair := pair?_written (h e List.mem_cons_self) (atMargin_flatMap_written htail)
    rw [List.length_cons] at hn
    obtain ⟨m, rfl⟩ : ∃ m, n = m + 1 := ⟨n - 1, by omega⟩
    obtain ⟨c, t, ht⟩ : ∃ c t, e.written ++ es.flatMap Pair.written = c :: t := by
      cases hfirst : e.first <;> simp [Pair.written, hfirst]
    rw [List.flatMap_cons, ht, pairs?.eq_def]
    simp only
    rw [← ht, hpair]
    simp [ih htail (n := m) (by omega)]

theorem length_le_flatMap_written (es : List Pair) :
    es.length ≤ (es.flatMap Pair.written).length := by
  induction es with
  | nil => exact Nat.le_refl 0
  | cons e es ih =>
    have hpos : 1 ≤ e.written.length := by simp [Pair.written]; omega
    rw [List.flatMap_cons, List.length_append, List.length_cons]
    omega

/-- The pairs of a mapping, which begins at the first one. -/
def ofMapping : Mapping → List Pair
  | [] => []
  | e :: es => ⟨true, e.1, e.2⟩ :: es.map fun e => ⟨false, e.1, e.2⟩

theorem ofRow_eq_flatMap_written (p : Projection) (row : Row) :
    ofRow p row = (ofMapping (row.mapping p)).flatMap Pair.written := by
  unfold ofRow ofMapping
  cases row.mapping p with
  | nil => rfl
  | cons e es => simp [ofEntry, Pair.written, List.flatMap_map]

theorem foldr_prepend (es : Mapping) (ms : List Mapping) :
    (es.map fun e => Pair.mk false e.1 e.2).foldr prepend ([], ms) = (es, ms) := by
  induction es with
  | nil => rfl
  | cons e es ih => rw [List.map_cons, List.foldr_cons, ih]; rfl

theorem foldr_prepend_ofMapping {m : Mapping} (h : m ≠ []) (ms : List Mapping) :
    (ofMapping m).foldr prepend ([], ms) = ([], m :: ms) := by
  obtain ⟨e, es, rfl⟩ := List.exists_cons_of_ne_nil h
  rw [ofMapping, List.foldr_cons, foldr_prepend]
  rfl

theorem foldr_prepend_flatMap {ms : List Mapping} (h : ∀ m ∈ ms, m ≠ []) :
    (ms.flatMap ofMapping).foldr prepend ([], []) = ([], ms) := by
  induction ms with
  | nil => rfl
  | cons m ms ih =>
    rw [List.flatMap_cons, List.foldr_append, ih fun n hn => h n (List.mem_cons_of_mem m hn),
      foldr_prepend_ofMapping (h m List.mem_cons_self)]

theorem exists_key_of_mem_ofMapping {m : Mapping} {e : Pair} (h : e ∈ ofMapping m) :
    ∃ f ∈ m, e.key = f.1 := by
  cases m with
  | nil => cases h
  | cons f m =>
    rcases List.mem_cons.1 h with rfl | h
    · exact ⟨f, List.mem_cons_self, rfl⟩
    · obtain ⟨g, hg, rfl⟩ := List.mem_map.1 h
      exact ⟨g, List.mem_cons_of_mem f hg, rfl⟩

theorem isKey_of_mem_ofMapping {p : Projection} {row : Row} {e : Pair}
    (h : e ∈ ofMapping (row.mapping p)) : IsKey e.key := by
  obtain ⟨f, hf, hkey⟩ := exists_key_of_mem_ofMapping h
  rw [row.mapping_eq_map] at hf
  obtain ⟨heading, -, rfl⟩ := List.mem_map.1 hf
  rw [hkey]
  exact isKey_title heading

theorem render_eq_flatMap_written {rows : List Row} (h : rows ≠ []) (p : Projection) :
    render rows p = ((rows.map (Row.mapping · p)).flatMap ofMapping).flatMap Pair.written := by
  obtain ⟨first, rest, rfl⟩ := List.exists_cons_of_ne_nil h
  have hrow : ofRow p = fun row => (ofMapping (row.mapping p)).flatMap Pair.written :=
    funext (ofRow_eq_flatMap_written p)
  rw [List.flatMap_assoc, List.flatMap_map, ← hrow]
  rfl

/-- A sheet shows nothing of its rows but their mappings. -/
theorem render_congr {rows rows' : List Row} {p : Projection}
    (h : rows.map (Row.mapping · p) = rows'.map (Row.mapping · p)) :
    render rows p = render rows' p := by
  by_cases hrows : rows = []
  · have hrows' : rows' = [] := by simpa [hrows] using h.symm
    rw [hrows, hrows']
  · have hrows' : rows' ≠ [] := by
      rintro rfl
      exact hrows (List.map_eq_nil_iff.1 h)
    rw [render_eq_flatMap_written hrows, render_eq_flatMap_written hrows', h]

theorem read?_render (rows : List Row) (p : Projection) :
    read? (render rows p) = some (rows.map (Row.mapping · p)) := by
  by_cases hrows : rows = []
  · rw [hrows]
    rfl
  · have hkeys : ∀ e ∈ (rows.map (Row.mapping · p)).flatMap ofMapping, IsKey e.key := by
      intro e he
      obtain ⟨m, hm, he⟩ := List.mem_flatMap.1 he
      obtain ⟨row, -, rfl⟩ := List.mem_map.1 hm
      exact isKey_of_mem_ofMapping he
    have hrender := render_eq_flatMap_written hrows p
    have hne : render rows p ≠ "[]\n".toList := by
      obtain ⟨first, rest, rfl⟩ := List.exists_cons_of_ne_nil hrows
      rw [hrender, List.map_cons, first.mapping_eq_map]
      cases p <;> exact fun h => absurd (List.cons.inj h).1 (by decide)
    have hpairs := pairs?_flatMap_written hkeys (length_le_flatMap_written _)
    have hmappings : ∀ m ∈ rows.map (Row.mapping · p), m ≠ [] := by
      intro m hm
      obtain ⟨row, -, rfl⟩ := List.mem_map.1 hm
      exact row.mapping_ne_nil p
    rw [read?, if_neg hne, hrender, hpairs]
    simp [foldr_prepend_flatMap hmappings]

end SchemaSheet.Yaml
