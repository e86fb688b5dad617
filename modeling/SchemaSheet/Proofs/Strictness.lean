import SchemaSheet.Proofs.Ending
import SchemaSheet.Proofs.Reading

/-! Strict extraction next to lenient extraction. The flag is looked at once, after the notices were
logged, so that the runs agree up to there, and altogether if there are no notices. Notices come
from lines of models only: a schema without tables has none, and it does not matter which of the two
refusals is looked for first. -/

namespace SchemaSheet

namespace Block

theorem lineNotices_of_split_eq_nil {lines : List Text} (h : split 1 lines = []) :
    lineNotices lines = [] := by
  induction lines using List.reverseRecOn with
  | nil => rfl
  | append_singleton lines line ih =>
    rw [split_concat] at h
    rw [lineNotices_concat]
    rcases grown_cases (split 1 lines) (1 + lines.length) line with
      ⟨ho, hh, hg⟩ | ⟨name, -, -, hg⟩ | ⟨init, b, -, -, hg⟩
    · rw [ih (hg ▸ h)]
      simp [noticesAt, ho, hh]
    · rw [hg] at h
      simp at h
    · rw [hg] at h
      simp at h

theorem split_eq_nil_iff (n : Nat) (lines : List Text) :
    split n lines = [] ↔ ∀ line ∈ lines, Line.header? line = none := by
  fun_induction split n lines with
  | case1 n => simp
  | case2 n line rest hline ih => simp [hline, ih]
  | case3 n line rest name hline => simp [hline]
  | case4 n line rest name hline => simp [hline]

end Block

namespace Reading

theorem tables_eq_nil_iff (schema : Text) :
    (ofText schema).tables = [] ↔ ∀ line ∈ schema.trimmedLines, Line.header? line = none := by
  rw [ofText_eq, List.map_eq_nil_iff, Block.split_eq_nil_iff]

theorem notices_of_tables_eq_nil {schema : Text} (h : (ofText schema).tables = []) :
    (ofText schema).notices = [] := by
  rw [ofText_eq, List.map_eq_nil_iff] at h
  rw [ofText_eq]
  simp [Block.lineNotices_of_split_eq_nil h, h, Block.unterminated]

end Reading

namespace LogRecord

def isWarning (l : LogRecord) : Bool := l.level == .warn

@[simp] theorem isWarning_ofEvent (e : Event) : (ofEvent e).isWarning = false := by
  cases e <;> rfl

@[simp] theorem isWarning_ofNotice (schema : Text) (x : Notice) :
    (ofNotice schema x).isWarning = true := rfl

end LogRecord

namespace Request

@[simp] theorem isWarning_renderingRecord (r : Request) (reading : Reading) :
    (r.renderingRecord reading).isWarning = false := rfl

@[simp] theorem isWarning_writtenRecord (r : Request) : r.writtenRecord.isWarning = false := rfl

theorem warnings_readingLog (r : Request) (reading : Reading) :
    (r.readingLog reading).filter LogRecord.isWarning =
      reading.notices.map (LogRecord.ofNotice r.schema) := by
  have hevents : (reading.events.map LogRecord.ofEvent).filter LogRecord.isWarning = [] := by
    rw [List.filter_eq_nil_iff]
    intro x hx
    obtain ⟨e, -, rfl⟩ := List.mem_map.1 hx
    simp
  have hnotices : (reading.notices.map (LogRecord.ofNotice r.schema)).filter LogRecord.isWarning =
      reading.notices.map (LogRecord.ofNotice r.schema) := by
    rw [List.filter_eq_self]
    intro x hx
    obtain ⟨e, -, rfl⟩ := List.mem_map.1 hx
    rfl
  rw [readingLog, List.filter_append, hevents, hnotices, List.nil_append]

theorem refusal?_of_clean (r : Request) {reading : Reading} (h : reading.notices = []) :
    r.refusal? reading = if reading.tables = [] then some (.noModels r.schema) else none := by
  simp [refusal?, h]

theorem refusal?_of_strict {r : Request} {reading : Reading} (hr : r.strict = true)
    (h : reading.notices ≠ []) :
    r.refusal? reading = some (.problems reading.notices.length) := by
  simp [refusal?, hr, h]

/-- It does not matter which reason to refuse a schema is looked for first. -/
theorem refusal?_ofText (r : Request) (schema : Text) :
    r.refusal? (Reading.ofText schema) =
      if (Reading.ofText schema).tables = [] then some (.noModels r.schema)
      else if r.strict ∧ (Reading.ofText schema).notices ≠ [] then
        some (.problems (Reading.ofText schema).notices.length)
      else none := by
  by_cases h : (Reading.ofText schema).tables = []
  · rw [refusal?_of_clean r (Reading.notices_of_tables_eq_nil h), if_pos h, if_pos h]
  · simp [refusal?, h]

end Request

/-- The log of an extraction that reads its schema begins with what was read; nothing in the rest is
a warning. -/
theorem log_extract (b : Build) (now : Nat) (r : Request) {fs : Files} {schema : Text}
    (h : fs.readText r.schema = .ok schema) :
    ∃ rest, (extract b now r fs).log = r.readingLog (Reading.ofText schema) ++ rest ∧
      ∀ x ∈ rest, x.isWarning = false := by
  have hend := ends_extract b now r fs
  generalize extract b now r fs = x at hend ⊢
  cases hend with
  | unreadable hread =>
    rw [h] at hread
    cases hread
  | refused hread _ =>
    rw [h] at hread
    cases hread
    exact ⟨[], by simp, by simp⟩
  | unrendered hread _ _ =>
    rw [h] at hread
    cases hread
    exact ⟨[r.renderingRecord _], rfl, by simp⟩
  | unstored hread _ _ _ =>
    rw [h] at hread
    cases hread
    exact ⟨[r.renderingRecord _], rfl, by simp⟩
  | stored hread _ _ _ =>
    rw [h] at hread
    cases hread
    exact ⟨[r.renderingRecord (Reading.ofText schema), r.writtenRecord], by
      simp [Request.renderingLog], by simp⟩

/-- Whether notices are problems is all that the flag decides. -/
theorem extract_strict_eq {b : Build} {now : Nat} {r : Request} {fs : Files}
    (h : ∀ schema, fs.readText r.schema = .ok schema → (Reading.ofText schema).notices = []) :
    extract b now { r with strict := true } fs =
      extract b now { r with strict := false } fs := by
  rw [extract_eq, extract_eq]
  cases hread : fs.readText r.schema with
  | error e => rfl
  | ok schema =>
    have hclean := h schema hread
    simp only [Request.prepare, Request.refusal?_of_clean _ hclean]
    rfl

theorem warnings_extract (b : Build) (now : Nat) (r : Request) {fs : Files} {schema : Text}
    (h : fs.readText r.schema = .ok schema) :
    (extract b now r fs).log.filter LogRecord.isWarning =
      (Reading.ofText schema).notices.map (LogRecord.ofNotice r.schema) := by
  obtain ⟨rest, hlog, hrest⟩ := log_extract b now r h
  have hnil : rest.filter LogRecord.isWarning = [] := by
    rw [List.filter_eq_nil_iff]
    intro x hx
    simp [hrest x hx]
  rw [hlog, List.filter_append, hnil, List.append_nil, Request.warnings_readingLog]

/-- The strict run of a request and the lenient one, from the same state. They are the same if the
schema cannot be read or leads to no notices. If it leads to notices, the strict run stops with
their number, changes no file, and its log, which warns of the notices in order, is the beginning of
the other log. A schema has no tables if and only if no line is a header, and then there are no
notices, so that at most one of the two refusals applies. -/
theorem extract_strict (b : Build) (now : Nat) (r : Request) (fs : Files) :
    let strict := extract b now { r with strict := true } fs
    let lenient := extract b now { r with strict := false } fs
    (∀ e, fs.readText r.schema = .error e → strict = lenient) ∧
    (∀ schema, fs.readText r.schema = .ok schema →
      let notices := (Reading.ofText schema).notices
      (notices = [] → strict = lenient) ∧
      (notices ≠ [] →
        strict.result = .error (.problems notices.length) ∧ strict.files = fs ∧
        strict.log <+: lenient.log ∧
        strict.log.filter LogRecord.isWarning = notices.map (LogRecord.ofNotice r.schema) ∧
        lenient.log.filter LogRecord.isWarning = notices.map (LogRecord.ofNotice r.schema))) ∧
    ∀ schema,
      let reading := Reading.ofText schema
      (reading.tables = [] ↔ ∀ line ∈ schema.trimmedLines, Line.header? line = none) ∧
      (reading.tables = [] → reading.notices = []) ∧
      r.refusal? reading =
        if reading.tables = [] then some (.noModels r.schema)
        else if r.strict ∧ reading.notices ≠ [] then some (.problems reading.notices.length)
        else none := by
  intro strict lenient
  refine ⟨fun e he => extract_strict_eq ?_, fun schema hread => ⟨fun hclean => ?_, fun hne => ?_⟩,
    fun schema => ⟨Reading.tables_eq_nil_iff schema, Reading.notices_of_tables_eq_nil,
      r.refusal?_ofText schema⟩⟩
  · intro schema hread
    rw [he] at hread
    cases hread
  · refine extract_strict_eq fun schema' hread' => ?_
    rw [hread, Except.ok.injEq] at hread'
    exact hread' ▸ hclean
  · have hstop : strict = ⟨.error (.problems (Reading.ofText schema).notices.length),
        r.readingLog (Reading.ofText schema), fs⟩ :=
      (Ends.refused (r := { r with strict := true }) hread
        (Request.refusal?_of_strict rfl hne)).extract_eq
    obtain ⟨rest, hlog, -⟩ := log_extract b now { r with strict := false } hread
    refine ⟨by rw [hstop], by rw [hstop], ?_, warnings_extract b now _ hread,
      warnings_extract b now _ hread⟩
    rw [hstop]
    exact ⟨rest, hlog.symm⟩

/-- A schema with a line that is no column, and the files around it. -/
def Request.careless : Request where
  schema := ['s']
  output := ['o']

def Request.carelessFiles : Files where
  entries := [([['s']], .file (Text.Utf8.encode "model A \x7b\n?\n\x7d".toList))]

theorem extract_strict_careless :
    let strict := extract .plain 0 { Request.careless with strict := true } Request.carelessFiles
    let lenient := extract .plain 0 { Request.careless with strict := false } Request.carelessFiles
    strict.result = .error (.problems 1) ∧ strict.files = Request.carelessFiles ∧
    strict.log <+: lenient.log ∧
    strict.log.filter LogRecord.isWarning =
      [⟨.warn, .extraction, "s: line 2: dropped unrecognized line in model 'A': ?".toList⟩] ∧
    lenient.result = .ok ⟨1, 0, .csv⟩ := by
  intro strict lenient
  have hread : Request.carelessFiles.readText Request.careless.schema =
      .ok "model A \x7b\n?\n\x7d".toList := by decide +kernel
  have hne : (Reading.ofText "model A \x7b\n?\n\x7d".toList).notices ≠ [] := by decide +kernel
  obtain ⟨hresult, hfiles, hlog, hwarn, -⟩ :=
    ((extract_strict .plain 0 Request.careless Request.carelessFiles).2.1 _ hread).2 hne
  exact ⟨hresult.trans (by decide +kernel), hfiles, hlog, hwarn.trans (by decide +kernel),
    by decide +kernel⟩

end SchemaSheet
