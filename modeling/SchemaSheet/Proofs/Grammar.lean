import Mathlib.Data.List.Nodup
import SchemaSheet.Proofs.Notices
import SchemaSheet.Proofs.Strictness

/-! The grammar of the schemas that lead to no notice. A document is blocks with other lines around
them; what may stand in a block is said line by line, with no reader in sight. Reading a document
whose names differ gives no notice, and a reading without notices leaves the derivation of one. -/

namespace SchemaSheet

namespace Grammar

/-- What may stand between a header and its brace. A column that is a header as well may not. -/
inductive BodyLine : Text → Prop
  | blank : BodyLine []
  | comment (t : Text) : BodyLine ('/' :: '/' :: t)
  | directive (t : Text) : BodyLine ('@' :: '@' :: t)
  | column {line : Text} {c : Column} (hcolumn : Line.column? line = some c)
    (hheader : Line.header? line = none) (hbrace : line ≠ ['}']) : BodyLine line

/-- The trimmed lines of a document, after the names of its blocks. -/
inductive Document : List Text → List Text → Prop
  | nil : Document [] []
  | other {line : Text} {names lines : List Text} (hline : Line.header? line = none)
    (hrest : Document names lines) : Document names (line :: lines)
  | block {header name : Text} {body names lines : List Text}
    (hheader : Line.header? header = some name) (hbody : ∀ line ∈ body, BodyLine line)
    (hrest : Document names lines) : Document (name :: names) (header :: (body ++ ['}'] :: lines))

theorem BodyLine.isClosing {line : Text} (h : BodyLine line) : Line.isClosing line = false := by
  cases h with
  | blank => rfl
  | comment t => rfl
  | directive t => rfl
  | column hcolumn hheader hbrace => simpa [Line.isClosing] using hbrace

/-- Lines to skip and columns, as the reader tells them apart. -/
theorem bodyLine_iff {line : Text} (h : Line.isClosing line = false) :
    BodyLine line ↔
      Line.isSkipped line = true ∨
        Line.header? line = none ∧ (Line.column? line).isSome = true := by
  constructor
  · intro hline
    cases hline with
    | blank => exact Or.inl rfl
    | comment t => exact Or.inl rfl
    | directive t => exact Or.inl rfl
    | column hcolumn hheader hbrace => exact Or.inr ⟨hheader, by rw [hcolumn]; rfl⟩
  · rintro (hskip | ⟨hheader, hcolumn⟩)
    · rcases Line.isSkipped_eq_true_iff.1 hskip with rfl | ⟨t, rfl⟩ | ⟨t, rfl⟩
      · exact .blank
      · exact .comment t
      · exact .directive t
    · obtain ⟨c, hc⟩ := Option.isSome_iff_exists.1 hcolumn
      exact .column hc hheader (by simpa [Line.isClosing] using h)

end Grammar

open Grammar

theorem Reader.complaints_eq_nil_iff {model : Text} {n : Nat} {line : Text} :
    complaints model n line = [] ↔
      Line.header? line = none ∧ (Line.column? line).isSome = true := by
  unfold complaints
  cases Line.header? line <;> cases Line.column? line <;> simp

namespace Block

theorem closed_of_mem_split {n : Nat} {lines : List Text} (h : open? (split n lines) = none) :
    ∀ b ∈ split n lines, b.closed = true := by
  induction n, lines using split_induction with
  | nil n => simp
  | other n line rest hline ih =>
    rw [split_cons_of_none n rest hline] at h ⊢
    exact ih h
  | unclosed n line name rest hline hrest =>
    rw [split_cons_of_open n hline hrest] at h
    cases h
  | closed n line name body after hline hbody ih =>
    rw [split_cons_of_closed n after hline hbody rfl] at h ⊢
    rw [open?_cons_of_closed _ rfl] at h
    exact List.forall_mem_cons.2 ⟨rfl, ih h⟩

theorem open?_split_eq_none_iff {n : Nat} {lines : List Text} :
    open? (split n lines) = none ↔ ∀ b ∈ split n lines, b.closed = true := by
  constructor
  · exact closed_of_mem_split
  · intro h
    cases ho : open? (split n lines) with
    | none => rfl
    | some b =>
      obtain ⟨hbs, hb⟩ := eq_concat_of_open? ho
      have hmem : b ∈ split n lines := by
        rw [hbs]
        simp
      rw [h b hmem] at hb
      cases hb

theorem unterminated_eq_nil_iff (bs : List Block) : unterminated bs = [] ↔ open? bs = none := by
  unfold unterminated
  cases open? bs <;> simp

theorem of_document {names lines : List Text} (h : Document names lines) (n : Nat) :
    (∀ b ∈ split n lines, b.closed = true ∧ ∀ line ∈ b.body, BodyLine line) ∧
      (split n lines).map (·.name) = names := by
  induction h generalizing n with
  | nil => simp
  | other hline hrest ih =>
    rw [split_cons_of_none n _ hline]
    exact ih (n + 1)
  | @block header name body names lines hheader hbody hrest ih =>
    rw [split_cons_of_closed n lines hheader (fun line hl => (hbody line hl).isClosing) rfl]
    obtain ⟨hsound, hnames⟩ := ih (n + body.length + 2)
    refine ⟨List.forall_mem_cons.2 ⟨⟨rfl, hbody⟩, hsound⟩, ?_⟩
    rw [List.map_cons, hnames]

/-- Lines all of whose blocks are closed and hold what a block may hold are a document. -/
theorem document_of_split {n : Nat} {lines : List Text}
    (h : ∀ b ∈ split n lines, b.closed = true ∧ ∀ line ∈ b.body, BodyLine line) :
    Document ((split n lines).map (·.name)) lines := by
  -- along the blocks, with one rule of the grammar for each case
  induction n, lines using split_induction with
  | nil n => simpa using Document.nil
  | other n line rest hline ih =>
    rw [split_cons_of_none n rest hline] at h ⊢
    exact .other hline (ih h)
  | unclosed n line name rest hline hrest =>
    rw [split_cons_of_open n hline hrest] at h
    have hclosed := (h _ (List.mem_singleton_self _)).1
    cases hclosed
  | closed n line name body after hline hbody ih =>
    rw [split_cons_of_closed n after hline hbody rfl] at h ⊢
    obtain ⟨⟨-, hsound⟩, hafter⟩ := List.forall_mem_cons.1 h
    exact .block hline hsound (ih hafter)

theorem body_extended (b : Block) (line : Text) :
    (b.extended line).body = if Line.isClosing line then b.body else b.body ++ [line] := by
  unfold extended
  split <;> rfl

theorem noticesAt_of_open_eq_nil_iff {init : List Block} {b : Block} (n : Nat) (line : Text)
    (hb : b.closed = false) :
    noticesAt (init ++ [b]) n line = [] ↔ Line.isClosing line = true ∨ BodyLine line := by
  rw [noticesAt_concat_of_open _ _ _ hb]
  cases hc : Line.isClosing line with
  | true => simp
  | false =>
    rw [bodyLine_iff hc, Bool.false_or]
    cases hs : Line.isSkipped line with
    | true => simp
    | false => simp [Reader.complaints_eq_nil_iff]

/-- Lines lead to no notice if names differ and every line of a block may stand in it. -/
theorem lineNotices_eq_nil_iff (lines : List Text) :
    lineNotices lines = [] ↔
      (∀ b ∈ split 1 lines, ∀ line ∈ b.body, BodyLine line) ∧
        ((split 1 lines).map (·.name)).Nodup := by
  induction lines using List.reverseRecOn with
  | nil => simp [lineNotices]
  | append_singleton lines line ih =>
    rw [lineNotices_concat, List.append_eq_nil_iff, ih, split_concat]
    rcases grown_cases (split 1 lines) (1 + lines.length) line with
      ⟨ho, hh, hg⟩ | ⟨name, ho, hh, hg⟩ | ⟨init, b, hbs, hb, hg⟩
    · rw [hg]
      simp [noticesAt, ho, hh]
    · -- a new block has no lines yet, so only its name can be noticed
      have hname : noticesAt (split 1 lines) (lines.length + 1) line = [] ↔
          name ∉ (split 1 lines).map (·.name) := by
        simp [noticesAt, ho, hh]
      rw [hg, hname, List.forall_mem_append, List.forall_mem_singleton, List.map_append,
        List.map_singleton, ← List.concat_eq_append, List.nodup_concat]
      simp only [List.not_mem_nil, false_imp_iff, implies_true, and_true]
      constructor
      · rintro ⟨⟨hbody, hnames⟩, hnew⟩
        exact ⟨hbody, hnew, hnames⟩
      · rintro ⟨hbody, hnew, hnames⟩
        exact ⟨⟨hbody, hnames⟩, hnew⟩
    · -- the line goes to a block that has its name already
      have hline : (∀ l ∈ (b.extended line).body, BodyLine l) ↔
          (∀ l ∈ b.body, BodyLine l) ∧ (Line.isClosing line = true ∨ BodyLine line) := by
        rw [body_extended]
        cases hc : Line.isClosing line with
        | true => simp
        | false => simp [or_imp, forall_and]
      rw [hg, hbs, noticesAt_of_open_eq_nil_iff _ _ hb, List.forall_mem_append,
        List.forall_mem_append, List.forall_mem_singleton, List.forall_mem_singleton, hline,
        List.map_append, List.map_append, List.map_singleton, List.map_singleton, name_extended]
      constructor
      · rintro ⟨⟨⟨hinit, hbody⟩, hnames⟩, hnew⟩
        exact ⟨⟨hinit, hbody, hnew⟩, hnames⟩
      · rintro ⟨⟨hinit, hbody, hnew⟩, hnames⟩
        exact ⟨⟨⟨hinit, hbody⟩, hnames⟩, hnew⟩

theorem notices_eq_nil_iff {lines : List Text} :
    lineNotices lines ++ unterminated (split 1 lines) = [] ↔
      (∀ b ∈ split 1 lines, b.closed = true ∧ ∀ line ∈ b.body, BodyLine line) ∧
        ((split 1 lines).map (·.name)).Nodup := by
  rw [List.append_eq_nil_iff, lineNotices_eq_nil_iff, unterminated_eq_nil_iff,
    open?_split_eq_none_iff]
  constructor
  · rintro ⟨⟨hbody, hnames⟩, hclosed⟩
    exact ⟨fun b hb => ⟨hclosed b hb, hbody b hb⟩, hnames⟩
  · rintro ⟨hsound, hnames⟩
    exact ⟨⟨fun b hb => (hsound b hb).2, hnames⟩, fun b hb => (hsound b hb).1⟩

end Block

namespace Reading

theorem notices_ofText_eq_nil_iff (schema : Text) :
    (ofText schema).notices = [] ↔
      ∃ names, Document names schema.trimmedLines ∧ names.Nodup := by
  rw [ofText_eq, Block.notices_eq_nil_iff]
  constructor
  · rintro ⟨hsound, hnames⟩
    exact ⟨_, Block.document_of_split hsound, hnames⟩
  · rintro ⟨names, hdocument, hnames⟩
    obtain ⟨hsound, heq⟩ := Block.of_document hdocument 1
    exact ⟨hsound, heq.symm ▸ hnames⟩

theorem tables_eq_nil_iff_names {schema : Text} {names : List Text}
    (h : Document names schema.trimmedLines) : (ofText schema).tables = [] ↔ names = [] := by
  obtain ⟨-, hnames⟩ := Block.of_document h 1
  rw [ofText_eq, ← hnames, List.map_eq_nil_iff, List.map_eq_nil_iff]

end Reading

/-- Whether a schema was read and then refused for what it holds. -/
def ExtractFault.isRefusal : ExtractFault → Bool
  | problems _ | noModels _ => true
  | unreadable .. | notWritten .. => false

namespace Request

theorem isRefusal_of_refusal? {r : Request} {reading : Reading} {f : ExtractFault}
    (h : r.refusal? reading = some f) : f.isRefusal = true := by
  unfold refusal? at h
  split at h
  · cases h
    rfl
  · split at h
    · cases h
      rfl
    · cases h

theorem isRefusal_of_render {workbooks : Bool} {r : Request} {reading : Reading}
    {f : ExtractFault} (h : r.render workbooks reading = .error f) : f.isRefusal = false := by
  unfold render at h
  simp only at h
  split at h
  · cases h
    rfl
  · cases h

/-- A strict request lets exactly the documents with a block pass. -/
theorem refusal?_eq_none_iff {r : Request} (hstrict : r.strict = true) (schema : Text) :
    r.refusal? (Reading.ofText schema) = none ↔
      ∃ names, Document names schema.trimmedLines ∧ names.Nodup ∧ names ≠ [] := by
  have hrefusal : r.refusal? (Reading.ofText schema) = none ↔
      (Reading.ofText schema).notices = [] ∧ (Reading.ofText schema).tables ≠ [] := by
    rw [refusal?_ofText]
    split
    · next h => simp [h]
    · next h => simp [h, hstrict]
  rw [hrefusal, Reading.notices_ofText_eq_nil_iff]
  constructor
  · rintro ⟨⟨names, hdocument, hnodup⟩, htables⟩
    exact ⟨names, hdocument, hnodup, mt (Reading.tables_eq_nil_iff_names hdocument).2 htables⟩
  · rintro ⟨names, hdocument, hnodup, hne⟩
    exact ⟨⟨names, hdocument, hnodup⟩, mt (Reading.tables_eq_nil_iff_names hdocument).1 hne⟩

end Request

/-- A run that reads its schema ends in a refusal only if the schema is refused. -/
theorem refusal?_eq_none_iff_extract (b : Build) (now : Nat) {r : Request} {fs : Files}
    {schema : Text} (h : fs.readText r.schema = .ok schema) :
    r.refusal? (Reading.ofText schema) = none ↔
      ∀ f, (extract b now r fs).result = .error f → f.isRefusal = false := by
  have hend := ends_extract b now r fs
  generalize extract b now r fs = x at hend ⊢
  cases hend with
  | unreadable hread =>
    rw [h] at hread
    cases hread
  | refused hread hrefusal =>
    rw [h] at hread
    cases hread
    have := Request.isRefusal_of_refusal? hrefusal
    simp [hrefusal, this]
  | unrendered hread hrefusal hrender =>
    rw [h] at hread
    cases hread
    have := Request.isRefusal_of_render hrender
    simp [hrefusal, this]
  | unstored hread hrefusal hrender hsave =>
    rw [h] at hread
    cases hread
    simp [hrefusal, ExtractFault.isRefusal]
  | stored hread hrefusal hrender hsave =>
    rw [h] at hread
    cases hread
    simp [hrefusal]

/-- A schema leads to no notice if and only if its trimmed lines are a document whose blocks have
different names. So a strict extraction that reads its schema gets past the two refusals exactly if
the schema is such a document and has a block. -/
theorem Reading.clean_iff_document (schema : Text) :
    ((ofText schema).notices = [] ↔
      ∃ names, Document names schema.trimmedLines ∧ names.Nodup) ∧
    ∀ (b : Build) (now : Nat) (r : Request) (fs : Files), r.strict = true →
      fs.readText r.schema = .ok schema →
      ((∀ f, (extract b now r fs).result = .error f → f.isRefusal = false) ↔
        ∃ names, Document names schema.trimmedLines ∧ names.Nodup ∧ names ≠ []) := by
  refine ⟨notices_ofText_eq_nil_iff schema, ?_⟩
  intro b now r fs hstrict hread
  rw [← refusal?_eq_none_iff_extract b now hread]
  exact Request.refusal?_eq_none_iff hstrict schema

/-- A strict request whose schema holds every kind of line that a document may. -/
def Request.flawless : Request where
  schema := ['s']
  output := ['o']
  strict := true

def Request.flawlessSchema : Text :=
  "\x7d\nenum E \x7b\nmodel A \x7b\n\n // a\n x Int? @id\n @@id([x])\n\x7d\nx Int\nmodel B \x7b\n\x7d".toList

def Request.flawlessFiles : Files where
  entries := [([['s']], .file (Text.Utf8.encode flawlessSchema))]

theorem Reading.clean_iff_document_strict :
    let run := extract .plain 0 Request.flawless Request.flawlessFiles
    Request.flawless.strict = true ∧
    Request.flawlessFiles.readText Request.flawless.schema = .ok Request.flawlessSchema ∧
    (∃ names, Document names Request.flawlessSchema.trimmedLines ∧ names.Nodup ∧ names ≠ []) ∧
    (∀ f, run.result = .error f → f.isRefusal = false) ∧
    run.result = .ok ⟨2, 1, .csv⟩ := by
  intro run
  have hread : Request.flawlessFiles.readText Request.flawless.schema =
      .ok Request.flawlessSchema := by decide +kernel
  have hresult : run.result = .ok ⟨2, 1, .csv⟩ := by decide +kernel
  have hpast : ∀ f, run.result = .error f → f.isRefusal = false := by
    intro f hf
    rw [hresult] at hf
    cases hf
  have hdocument := ((clean_iff_document Request.flawlessSchema).2 .plain 0 Request.flawless
    Request.flawlessFiles rfl hread).1 hpast
  exact ⟨rfl, hread, hdocument, hpast, hresult⟩

end SchemaSheet
