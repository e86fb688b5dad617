import Mathlib.Algebra.Group.Nat.Defs
import Mathlib.Data.List.Induction
import SchemaSheet.Proofs.Text
import SchemaSheet.Sheet.Yaml.Scalar

/-! Reading a YAML scalar back, as the value of an entry at the column of a sheet's entries. Each
style has a reader of its own, told by the first character; a plain scalar goes up to the end of its
line, a quoted one up to its quote, and a literal as far as lines are indented. -/

namespace SchemaSheet.Yaml

open Text

/-- The characters that a document writes as they are break no line but these two; the others would
be folded. -/
def isKeptBreak (c : Char) : Bool := c == '\u2028' || c == '\u2029'

/-- The rest of the line, unless it means something else than the text that it is. -/
def plain? (t : Text) : Option (Text × Text) := do
  let line := t.takeWhile (· != '\n')
  let r ← after? ['\n'] (t.dropWhile (· != '\n'))
  if canBePlain line && !isForeign line then some (line, r) else none

/-- The rest of a single quoted scalar. Spaces at the start of a line are layout. -/
def single? (fresh : Bool) : Text → Option (Text × Text)
  | [] => none
  | c :: cs =>
    if c = '\'' then
      match cs with
      | '\'' :: r => (single? false r).map fun (t, r) => ('\'' :: t, r)
      | _ => some ([], cs)
    else if fresh && c == ' ' then single? true cs
    else if isBreak c && !isKeptBreak c then none
    else (single? (isBreak c) cs).map fun (t, r) => (c :: t, r)

def short? : Char → Option Char
  | '0' => some '\x00'
  | 'a' => some '\x07'
  | 'b' => some '\x08'
  | 't' => some '\t'
  | 'n' => some '\n'
  | 'v' => some '\x0B'
  | 'f' => some '\x0C'
  | 'r' => some '\r'
  | 'e' => some '\x1B'
  | ' ' => some ' '
  | '"' => some '"'
  | '/' => some '/'
  | '\\' => some '\\'
  | 'N' => some '\u0085'
  | '_' => some '\u00A0'
  | 'L' => some '\u2028'
  | 'P' => some '\u2029'
  | _ => none

def double? : Text → Option (Text × Text)
  | [] => none
  | c :: cs =>
    if c = '"' then some ([], cs)
    else if c = '\\' then
      match cs with
      | 'x' :: a :: b :: rest => do
        let d ← hexChar? [a, b]
        (double? rest).map fun (t, r) => (d :: t, r)
      | 'u' :: a :: b :: e :: f :: rest => do
        let d ← hexChar? [a, b, e, f]
        (double? rest).map fun (t, r) => (d :: t, r)
      | 'U' :: a :: b :: e :: f :: g :: h :: i :: j :: rest => do
        let d ← hexChar? [a, b, e, f, g, h, i, j]
        (double? rest).map fun (t, r) => (d :: t, r)
      | e :: rest => do
        let d ← short? e
        (double? rest).map fun (t, r) => (d :: t, r)
      | [] => none
    else if isBreak c then none
    else (double? cs).map fun (t, r) => (c :: t, r)

/-- The lines of a literal without their indentation, of which `k` spaces are still to come. It ends
at a line that has fewer. -/
def literalLines (k : Nat) : Text → Text × Text
  | [] => ([], [])
  | c :: cs =>
    if isBreak c then
      let (t, r) := literalLines indent.length cs
      (c :: t, r)
    else
      match k with
      | 0 =>
        let (t, r) := literalLines 0 cs
        (c :: t, r)
      | n + 1 =>
        if c = ' ' then literalLines n cs
        else ([], List.replicate (indent.length - k) ' ' ++ c :: cs)

/-- What is kept of the breaks at the end of a literal: none, all, or the first one. -/
def chomped (hint : Text) (t : Text) : Text :=
  let ending := (t.reverse.takeWhile isBreak).reverse
  let core := (t.reverse.dropWhile isBreak).reverse
  if hint = ['-'] then core else if hint = ['+'] then t else core ++ ending.take 1

def literal? (t : Text) : Option (Text × Text) := do
  let hints := t.takeWhile (· != '\n')
  let body ← after? ['\n'] (t.dropWhile (· != '\n'))
  let chomping := (after? ['2'] hints).getD hints
  if [[], ['-'], ['+']].contains chomping then
    let (lines, r) := literalLines indent.length body
    some (chomped chomping lines, r)
  else none

def scalar? : Text → Option (Text × Text)
  | '"' :: r => do
    let (t, r) ← double? r
    (after? ['\n'] r).map (t, ·)
  | '\'' :: r => do
    let (t, r) ← single? false r
    (after? ['\n'] r).map (t, ·)
  | '|' :: r => literal? r
  | t => plain? t

theorem plain?_append {t : Text} (hplain : canBePlain t = true) (hforeign : isForeign t = false)
    (hfeed : '\n' ∉ t) (r : Text) : plain? (t ++ '\n' :: r) = some (t, r) := by
  have hclass : ∀ c ∈ t, (c != '\n') = true := by
    intro c hc
    simp only [bne_iff_ne]
    rintro rfl
    exact hfeed hc
  have hstop : Stops (· != '\n') ('\n' :: r) := stops_cons (by decide)
  simp [plain?, takeWhile_append hclass hstop, dropWhile_append hclass hstop, after?, hplain,
    hforeign]

section Single

theorem single?_plain {c : Char} (hquote : c ≠ '\'') {fresh : Bool}
    (hspace : fresh = true → c ≠ ' ') (hbreak : isBreak c = true → isKeptBreak c = true)
    (t : Text) :
    single? fresh (c :: t) = (single? (isBreak c) t).map fun (s, r) => (c :: s, r) := by
  have hfresh : (fresh && c == ' ') = false := by
    cases fresh with
    | false => rfl
    | true => simpa using hspace rfl
  have hkept : (isBreak c && !isKeptBreak c) = false := by
    cases hb : isBreak c with
    | false => rfl
    | true => simp [hbreak hb]
  rw [single?.eq_def]
  simp only [hquote, hfresh, hkept, if_false, Bool.false_eq_true]

theorem single?_indent (t : Text) : single? true (indent ++ t) = single? true t := by
  have hspace (u : Text) : single? true (' ' :: u) = single? true u := by
    rw [single?.eq_def]
    rfl
  exact (hspace _).trans ((hspace _).trans ((hspace _).trans (hspace _)))

theorem single?_quoted (fresh : Bool) (t : Text) :
    single? fresh ('\'' :: '\'' :: t) = (single? false t).map fun (s, r) => ('\'' :: s, r) := by
  rw [single?.eq_def]
  rfl

theorem single?_end (fresh : Bool) {r : Text} (h : r.head? ≠ some '\'') :
    single? fresh ('\'' :: r) = some ([], r) := by
  rw [single?.eq_def]
  cases r with
  | nil => rfl
  | cons c r =>
    have hc : c ≠ '\'' := by simpa using h
    simp only [if_true]
    split
    · next heq => cases heq; exact absurd rfl hc
    · rfl

theorem single?_singleBody {t : Text} (hbreaks : ∀ c ∈ t, isBreak c = true → isKeptBreak c = true)
    (hspaces : hasNeighbours (fun c d => isBreak c && d == ' ') t = false) (fresh : Bool)
    (hfresh : fresh = true → t.head? ≠ some ' ') {r : Text} (hr : r.head? ≠ some '\'') :
    single? fresh (singleBody fresh t ++ '\'' :: r) = some (t, r) := by
  induction t generalizing fresh with
  | nil =>
    cases fresh with
    | false => exact single?_end false hr
    | true =>
      rw [singleBody, if_pos rfl, single?_indent]
      exact single?_end true hr
  | cons c t ih =>
    have hrest (b : Bool) (hb : b = true → t.head? ≠ some ' ') :
        single? b (singleBody b t ++ '\'' :: r) = some (t, r) := by
      refine ih (fun d hd => hbreaks d (List.mem_cons_of_mem c hd)) ?_ b hb
      cases t with
      | nil => rfl
      | cons d t =>
        rw [hasNeighbours, Bool.or_eq_false_iff] at hspaces
        exact hspaces.2
    cases hc : isBreak c with
    | true =>
      have hhead : t.head? ≠ some ' ' := by
        cases t with
        | nil => simp
        | cons d t =>
          rw [hasNeighbours, Bool.or_eq_false_iff, hc] at hspaces
          simpa using hspaces.1
      have hquote : c ≠ '\'' := by
        rintro rfl
        cases hc
      have hspace : c ≠ ' ' := by
        rintro rfl
        cases hc
      rw [singleBody, hc, if_pos rfl, List.cons_append,
        single?_plain hquote (fun _ => hspace) (hbreaks c List.mem_cons_self), hc,
        hrest true fun _ => hhead]
      rfl
    | false =>
      have hbody : single? fresh ((if c = '\'' then ['\'', '\''] else [c]) ++
          (singleBody false t ++ '\'' :: r)) = some (c :: t, r) := by
        have hnext := hrest false (by simp)
        by_cases hquote : c = '\''
        · rw [if_pos hquote, hquote, List.cons_append, List.singleton_append, single?_quoted,
            hnext]
          rfl
        · have hspace : fresh = true → c ≠ ' ' := fun hf => by simpa using hfresh hf
          rw [if_neg hquote, List.singleton_append,
            single?_plain hquote hspace (hbreaks c List.mem_cons_self), hc, hnext]
          rfl
      rw [singleBody, hc, if_neg Bool.false_ne_true]
      cases fresh with
      | false => simpa using hbody
      | true =>
        rw [if_pos rfl, List.append_assoc, List.append_assoc, single?_indent]
        exact hbody

end Single

section Double

theorem digit?_digitChar : ∀ n < 16, digit? 16 (Nat.digitChar n).toUpper = some n := by decide

theorem numeral?_append (base start : Nat) (s t : Text) :
    numeral? base start (s ++ t) = (numeral? base start s).bind (numeral? base · t) := by
  induction s generalizing start with
  | nil => rfl
  | cons c s ih =>
    rw [List.cons_append, numeral?, numeral?]
    cases digit? base c with
    | none => rfl
    | some d => exact ih (start * base + d)

/-- The last digits of a number are read as what they count for. -/
theorem numeral?_hexNumeral (k n start : Nat) :
    numeral? 16 start (hexNumeral k n) = some (start * 16 ^ k + n % 16 ^ k) := by
  induction k generalizing n with
  | zero => simp [hexNumeral, numeral?, Nat.mod_one]
  | succ k ih =>
    have hdigit := digit?_digitChar (n % 16) (Nat.mod_lt _ (by decide))
    have hmod : n % 16 ^ (k + 1) = n / 16 % 16 ^ k * 16 + n % 16 := by
      rw [Nat.pow_succ', Nat.mod_mul]
      omega
    rw [hexNumeral, numeral?_append, ih, Option.bind_some, numeral?, hdigit, hmod]
    simp only [Option.bind_eq_bind, Option.bind_some, numeral?, Nat.pow_succ, Option.some.injEq]
    rw [Nat.add_mul, ← Nat.mul_assoc, Nat.add_assoc]

theorem hexChar?_hexNumeral {k : Nat} {c : Char} (h : c.toNat < 16 ^ k) :
    hexChar? (hexNumeral k c.toNat) = some c := by
  have hvalid : c.toNat.isValidChar := c.valid
  rw [hexChar?, numeral?_hexNumeral, Nat.zero_mul, Nat.zero_add, Nat.mod_eq_of_lt h]
  simp [hvalid, Char.ofNat_toNat]

theorem double?_plain {c : Char} (hquote : c ≠ '"') (hback : c ≠ '\\') (hbreak : isBreak c = false)
    (t : Text) : double? (c :: t) = (double? t).map fun (s, r) => (c :: s, r) := by
  rw [double?.eq_def]
  simp only [hquote, hback, hbreak, if_false, Bool.false_eq_true]

theorem double?_code (c : Char) (t : Text) :
    (c.toNat < 0x100 → double? ('\\' :: 'x' :: (hexNumeral 2 c.toNat ++ t)) =
      (double? t).map fun (s, r) => (c :: s, r)) ∧
    (c.toNat < 0x10000 → double? ('\\' :: 'u' :: (hexNumeral 4 c.toNat ++ t)) =
      (double? t).map fun (s, r) => (c :: s, r)) ∧
    double? ('\\' :: 'U' :: (hexNumeral 8 c.toNat ++ t)) =
      (double? t).map fun (s, r) => (c :: s, r) := by
  have hlt : c.toNat < 16 ^ 8 := by
    have hvalid : c.toNat < 0xD800 ∨ 0xDFFF < c.toNat ∧ c.toNat < 0x110000 := c.valid
    omega
  refine ⟨fun h => ?_, fun h => ?_, ?_⟩
  · have := hexChar?_hexNumeral (k := 2) h
    simp only [hexNumeral, List.nil_append, List.cons_append] at this ⊢
    rw [double?.eq_def]
    simp [this]
  · have := hexChar?_hexNumeral (k := 4) h
    simp only [hexNumeral, List.nil_append, List.cons_append] at this ⊢
    rw [double?.eq_def]
    simp [this]
  · have := hexChar?_hexNumeral (k := 8) hlt
    simp only [hexNumeral, List.nil_append, List.cons_append] at this ⊢
    rw [double?.eq_def]
    simp [this]

theorem double?_escaped (c : Char) (t : Text) :
    double? (escaped c ++ t) = (double? t).map fun (s, r) => (c :: s, r) := by
  obtain ⟨hx, hu, hU⟩ := double?_code c t
  unfold escaped
  split
  case h_15 _ _ _ _ hfeed _ _ hreturn _ hquote hback hnext hline hparagraph =>
    have hbreak : isBreak c = false := by
      simp only [isBreak, Bool.or_eq_false_iff, beq_eq_false_iff_ne]
      exact ⟨⟨⟨⟨hfeed, hreturn⟩, hnext⟩, hline⟩, hparagraph⟩
    split
    · exact double?_plain hquote hback hbreak t
    · split
      · next h => exact hx h
      · split
        · next h => exact hu h
        · exact hU
  all_goals simp [double?, short?]

theorem double?_flatMap_escaped (s t : Text) :
    double? (s.flatMap escaped ++ '"' :: t) = some (s, t) := by
  induction s with
  | nil => rw [List.flatMap_nil, List.nil_append, double?.eq_def]; rfl
  | cons c s ih => rw [List.flatMap_cons, List.append_assoc, double?_escaped, ih]; rfl

end Double

section Literal

def freshAfter (fresh : Bool) (t : Text) : Bool := t.foldl (fun _ c => isBreak c) fresh

/-- A literal does not reach into the text. -/
def AtMargin (r : Text) : Prop := literalLines indent.length r = ([], r)

theorem literalBody_append (fresh : Bool) (s t : Text) :
    literalBody fresh (s ++ t) = literalBody fresh s ++ literalBody (freshAfter fresh s) t := by
  induction s generalizing fresh with
  | nil => rfl
  | cons c s ih =>
    have hafter : freshAfter fresh (c :: s) = freshAfter (isBreak c) s := rfl
    rw [List.cons_append, literalBody, literalBody, hafter]
    cases hc : isBreak c with
    | true => simp [ih]
    | false => simp [ih]

theorem literalLines_break {c : Char} (hc : isBreak c = true) (k : Nat) (t : Text) :
    literalLines k (c :: t) =
      (c :: (literalLines indent.length t).1, (literalLines indent.length t).2) := by
  rw [literalLines.eq_def]
  simp only [hc, if_true]

theorem literalLines_indent (t : Text) :
    literalLines indent.length (indent ++ t) = literalLines 0 t := by
  have hspace (n : Nat) (u : Text) : literalLines (n + 1) (' ' :: u) = literalLines n u := by
    rw [literalLines]
    rfl
  exact (hspace 3 _).trans ((hspace 2 _).trans ((hspace 1 _).trans (hspace 0 _)))

theorem literalLines_literalBody {r : Text} (hr : AtMargin r) (fresh : Bool) {t : Text}
    (h : freshAfter fresh t = true) :
    literalLines (if fresh then indent.length else 0) (literalBody fresh t ++ r) = (t, r) := by
  induction t generalizing fresh with
  | nil =>
    have hfresh : fresh = true := h
    rw [hfresh]
    exact hr
  | cons c t ih =>
    rw [literalBody]
    cases hc : isBreak c with
    | true =>
      have hrest := ih true (hc ▸ h)
      rw [if_pos rfl] at hrest
      rw [if_pos rfl, List.cons_append, literalLines_break hc, hrest]
    | false =>
      have hrest := ih false (hc ▸ h)
      rw [if_neg Bool.false_ne_true] at hrest
      have hplain : literalLines 0 (c :: (literalBody false t ++ r)) = (c :: t, r) := by
        rw [literalLines]
        simp [hc, hrest]
      rw [if_neg Bool.false_ne_true]
      cases fresh with
      | true =>
        rw [if_pos rfl, if_pos rfl, List.append_assoc, List.cons_append, literalLines_indent]
        exact hplain
      | false => simpa using hplain

def broken (t : Text) : Text := t ++ if (t.getLast?).any isBreak then [] else ['\n']

theorem freshAfter_broken (t : Text) : freshAfter true (broken t) = true := by
  unfold broken freshAfter
  cases t using List.reverseRecOn with
  | nil => rfl
  | append_singleton t c =>
    rw [List.getLast?_concat, Option.any_some]
    cases hc : isBreak c with
    | true => simp [hc]
    | false => simp [isBreak]

theorem literalBody_broken (t : Text) :
    literalBody true (broken t) =
      literalBody true t ++ if (t.getLast?).any isBreak then [] else ['\n'] := by
  rw [broken, literalBody_append]
  split <;> rfl

/-- The hint tells which of the breaks at the end are part of the text. -/
theorem chomped_broken (t : Text) : chomped (chompingHint t) (broken t) = t := by
  cases t using List.reverseRecOn with
  | nil => rfl
  | append_singleton s c =>
    cases hc : isBreak c with
    | false =>
      have hhint : chompingHint (s ++ [c]) = ['-'] := by
        unfold chompingHint
        cases s using List.reverseRecOn <;> simp [hc]
      have hbreak : isBreak '\n' = true := rfl
      simp [hhint, chomped, broken, hc, hbreak]
    | true =>
      have hbroken : broken (s ++ [c]) = s ++ [c] := by simp [broken, hc]
      rw [hbroken]
      cases s using List.reverseRecOn with
      | nil => simp [chompingHint, chomped, hc]
      | append_singleton s d => cases hd : isBreak d <;> simp [chompingHint, chomped, hc, hd]

theorem chompingHint_cases (t : Text) :
    chompingHint t = [] ∨ chompingHint t = ['-'] ∨ chompingHint t = ['+'] := by
  unfold chompingHint
  split
  · decide
  · split <;> decide
  · split
    · decide
    · split <;> decide

theorem indentationHint_cases (t : Text) : indentationHint t = [] ∨ indentationHint t = ['2'] := by
  unfold indentationHint
  split
  · decide
  · split <;> decide

/-- The hints stand on one line, and what follows a digit is the second one. -/
theorem hints_cut (t : Text) :
    (indentationHint t ++ chompingHint t).all (· != '\n') = true ∧
    (after? ['2'] (indentationHint t ++ chompingHint t)).getD
      (indentationHint t ++ chompingHint t) = chompingHint t ∧
    [[], ['-'], ['+']].contains (chompingHint t) = true := by
  rcases indentationHint_cases t with hi | hi <;> rcases chompingHint_cases t with hc | hc | hc <;>
    rw [hi, hc] <;> exact ⟨rfl, rfl, rfl⟩

theorem literal?_append {r : Text} (hr : AtMargin r) (t : Text) :
    literal? (indentationHint t ++ (chompingHint t ++ '\n' ::
      (literalBody true (broken t) ++ r))) = some (t, r) := by
  obtain ⟨hall, hchomping, hknown⟩ := hints_cut t
  have hhints := List.all_eq_true.1 hall
  have hstop : Stops (· != '\n') ('\n' :: (literalBody true (broken t) ++ r)) :=
    stops_cons (by decide)
  have hlines := literalLines_literalBody hr true (freshAfter_broken t)
  rw [if_pos rfl] at hlines
  rw [← List.append_assoc, literal?, takeWhile_append hhints hstop,
    dropWhile_append hhints hstop]
  simp only [after?, if_true, Option.bind_eq_bind, Option.bind_some, hchomping, if_pos hknown,
    hlines, chomped_broken]

end Literal

theorem not_isIndicator_of_canBePlain {c : Char} {cs : Text} (h : canBePlain (c :: cs) = true) :
    isIndicator c = false := by
  simp only [canBePlain, Bool.not_eq_true', Bool.or_eq_false_iff] at h
  exact h.1.1.2

/-- What single quotes can hold needs no escapes, and no line of it begins with a space. -/
theorem breaks_of_canBeSingle {t : Text} (h : canBeSingle t = true) (hfeed : '\n' ∉ t) :
    (∀ c ∈ t, isBreak c = true → isKeptBreak c = true) ∧
      hasNeighbours (fun c d => isBreak c && d == ' ') t = false := by
  simp only [canBeSingle, Bool.not_eq_true', Bool.or_eq_false_iff, List.any_eq_false] at h
  refine ⟨fun c hc hbreak => ?_, h.1.2⟩
  have hspecial := h.1.1 c hc
  simp only [isBreak, Bool.or_eq_true, beq_iff_eq] at hbreak
  rcases hbreak with (((rfl | rfl) | rfl) | rfl) | rfl
  · exact absurd hc hfeed
  · exact absurd (by decide) hspecial
  · exact absurd (by decide) hspecial
  · rfl
  · rfl

theorem scalar?_cons_of_not_isIndicator {c : Char} (h : isIndicator c = false) (t : Text) :
    scalar? (c :: t) = plain? (c :: t) := by
  rw [scalar?.eq_def]
  split
  · next heq => cases heq; exact absurd h (by decide)
  · next heq => cases heq; exact absurd h (by decide)
  · next heq => cases heq; exact absurd h (by decide)
  · rfl

theorem Style.of_eq_plain {t : Text} (h : Style.of t = .plain) :
    '\n' ∉ t ∧ isForeign t = false ∧ canBePlain t = true := by
  unfold Style.of at h
  grind

theorem Style.of_eq_single {t : Text} (h : Style.of t = .single) :
    '\n' ∉ t ∧ canBeSingle t = true := by
  unfold Style.of at h
  grind

/-- A written scalar is read as its text, whatever its style. -/
theorem scalar?_ofText (t : Text) {r : Text} (hr : AtMargin r) :
    scalar? (ofText t ++ r) = some (t, r) := by
  unfold ofText
  split
  · next h =>
    obtain ⟨hfeed, hforeign, hplain⟩ := Style.of_eq_plain h
    cases t with
    | nil => cases hplain
    | cons c cs =>
      rw [List.append_assoc, List.singleton_append, List.cons_append,
        scalar?_cons_of_not_isIndicator (not_isIndicator_of_canBePlain hplain)]
      exact plain?_append hplain hforeign hfeed r
  · next h =>
    obtain ⟨hfeed, hsingle⟩ := Style.of_eq_single h
    obtain ⟨hbreaks, hspaces⟩ := breaks_of_canBeSingle hsingle hfeed
    have hbody := single?_singleBody hbreaks hspaces false (by simp) (r := '\n' :: r) (by simp)
    simp [scalar?, hbody, after?]
  · simp [scalar?, double?_flatMap_escaped, after?]
  · have hbody := literalBody_broken t
    have hliteral := literal?_append hr t
    rw [hbody] at hliteral
    simpa [scalar?] using hliteral

end SchemaSheet.Yaml
