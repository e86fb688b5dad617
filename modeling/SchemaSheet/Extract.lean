import SchemaSheet.Fault.Extract
import SchemaSheet.Files.Access
import SchemaSheet.Log
import SchemaSheet.Sheet.Format

/-! Extraction: a schema is read, its rows are rendered, and the sheet is stored. Nothing is stored
unless the sheet is complete. The program runs on any host; `extract` is its run on a tree of files,
at a time that the archives of workbooks hold. -/

namespace SchemaSheet

/-- What to extract, and how. -/
structure Request where
  schema : Path
  output : Path
  /-- The format of the sheet; if it is left open, the output's extension tells it. -/
  format : Option Format := none
  minimal : Bool := false
  /-- Whether notices are problems. -/
  strict : Bool := false
  deriving DecidableEq, Repr

structure Summary where
  tables : Nat
  /-- The number of rows, titles apart. -/
  columns : Nat
  format : Format
  deriving DecidableEq, Repr

def Summary.message (s : Summary) (output : Path) : Text :=
  "Definition of ".toList ++ Text.ofNat s.tables ++ " table(s) / ".toList ++
    Text.ofNat s.columns ++ " column(s) written to ".toList ++ output ++ " (".toList ++
    s.format.name ++ [')']

structure Sheet where
  content : Content
  summary : Summary
  deriving DecidableEq, Repr

namespace Request

def projection (r : Request) : Projection := if r.minimal then .minimal else .full

def chosenFormat (r : Request) : Format := r.format.getD (Format.ofPath r.output)

/-- Why a schema that was read leads to no sheet. -/
def refusal? (r : Request) (reading : Reading) : Option ExtractFault :=
  if r.strict ∧ reading.notices ≠ [] then some (.problems reading.notices.length)
  else if reading.tables = [] then some (.noModels r.schema)
  else none

def readingLog (r : Request) (reading : Reading) : List LogRecord :=
  reading.events.map LogRecord.ofEvent ++ reading.notices.map (LogRecord.ofNotice r.schema)

def renderingRecord (r : Request) (reading : Reading) : LogRecord :=
  ⟨.debug, .extraction,
    "rendering ".toList ++ Text.ofNat (Row.ofTables reading.tables).length ++
      " record(s) from ".toList ++ Text.ofNat reading.tables.length ++ " model(s) as ".toList ++
      r.chosenFormat.name⟩

def writtenRecord (r : Request) : LogRecord := ⟨.info, .extraction, "wrote ".toList ++ r.output⟩

def render (workbooks : Bool) (r : Request) (reading : Reading) : Except ExtractFault Sheet :=
  let rows := Row.ofTables reading.tables
  match r.chosenFormat.render workbooks rows r.projection with
  | .error e => .error (.notWritten r.output e)
  | .ok content => .ok ⟨content, ⟨reading.tables.length, rows.length, r.chosenFormat⟩⟩

/-- The sheet of a schema, and the log up to it. -/
def prepare (workbooks : Bool) (r : Request) (schema : Text) :
    List LogRecord × Except ExtractFault Sheet :=
  let reading := Reading.ofText schema
  match r.refusal? reading with
  | some e => (r.readingLog reading, .error e)
  | none =>
    (r.readingLog reading ++ [r.renderingRecord reading], r.render workbooks reading)

variable {m : Type → Type} [Monad m]

/-- Carries out a request. What is given back is how that ended and the log. -/
def carryOut (host : Host m) (r : Request) :
    m (Except ExtractFault Summary × List LogRecord) := do
  match ← host.readText r.schema with
  | .error e => return (.error (.unreadable r.schema e), [])
  | .ok schema =>
    match r.prepare host.workbooks schema with
    | (log, .error e) => return (.error e, log)
    | (log, .ok sheet) =>
      match ← host.save r.output (← host.bytes sheet.content) with
      | some e => return (.error (.notWritten r.output (.system e)), log)
      | none => return (.ok sheet.summary, log ++ [r.writtenRecord])

end Request

/-- What a build of the program brings along: whether it can write workbooks, and the bytes of the
archive that is made of a workbook at a time, in seconds. An archive tells when it was made, so the
same workbook has other bytes at another time. -/
structure Build where
  workbooks : Bool
  archive : Nat → Workbook → List UInt8

/-- A build that cannot write workbooks. -/
def Build.plain : Build where
  workbooks := false
  archive := fun _ _ => []

/-- A tree of files as a host, at a time. -/
def Files.host (b : Build) (now : Nat) : Host (StateM Files) where
  toStorage := storage
  nearest? name := return (← get).nearest? name (← get).here.reverse
  workbooks := b.workbooks
  archive w := return b.archive now w

structure Extraction where
  result : Except ExtractFault Summary
  log : List LogRecord
  files : Files

/-- Carries out a request on a tree of files, at a time. -/
def extract (b : Build) (now : Nat) (r : Request) (fs : Files) : Extraction :=
  let ((result, log), files) := r.carryOut (Files.host b now) fs
  ⟨result, log, files⟩

theorem extract_eq (b : Build) (now : Nat) (r : Request) (fs : Files) :
    extract b now r fs =
      match fs.readText r.schema with
      | .error e => ⟨.error (.unreadable r.schema e), [], fs⟩
      | .ok schema =>
        match r.prepare b.workbooks schema with
        | (log, .error e) => ⟨.error e, log, fs⟩
        | (log, .ok sheet) =>
          match fs.save r.output (sheet.content.bytes (b.archive now)) with
          | ⟨fs', some e⟩ => ⟨.error (.notWritten r.output (.system e)), log, fs'⟩
          | ⟨fs', none⟩ => ⟨.ok sheet.summary, log ++ [r.writtenRecord], fs'⟩ := by
  have hread : (Files.host b now).readText r.schema fs = (fs.readText r.schema, fs) :=
    Files.run_readText fs r.schema
  have hbytes (c : Content) :
      (Files.host b now).bytes c fs = (c.bytes (b.archive now), fs) := by cases c <;> rfl
  have hsave (path : Path) (bytes : List UInt8) :
      (Files.host b now).save path bytes fs =
        ((fs.save path bytes).fault, (fs.save path bytes).files) := rfl
  have hworkbooks : (Files.host b now).workbooks = b.workbooks := rfl
  simp only [extract, Request.carryOut, Files.run_bind, hread, hworkbooks]
  cases fs.readText r.schema with
  | error e => rfl
  | ok schema =>
    simp only
    rcases r.prepare b.workbooks schema with ⟨log, _ | sheet⟩
    · rfl
    · simp only [Files.run_bind, hbytes, hsave]
      rcases fs.save r.output (sheet.content.bytes (b.archive now)) with ⟨fs', _ | e⟩ <;> rfl

end SchemaSheet
