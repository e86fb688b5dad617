import SchemaSheet.Fault.System
import SchemaSheet.Files.Path
import SchemaSheet.Sheet.Content

/-! What a program asks of the machine it runs on, and how texts are read and sheets are stored by
these calls. Nothing here depends on what answers them: a machine, or a tree of files that is only
a value. -/

namespace SchemaSheet

open Text

/-- The calls about files. Those that can fail tell why. -/
structure Storage (m : Type → Type) where
  read : Path → m (Except SystemFault (List UInt8))
  /-- Whether a path leads to anything. -/
  isThere : Path → m Bool
  isDirectory : Path → m Bool
  makeDirectory : Path → m (Except SystemFault Unit)
  /-- Makes the file at a path, or gives it other bytes. -/
  writeFile : Path → List UInt8 → m (Except SystemFault Unit)

/-- All the calls of a program. -/
structure Host (m : Type → Type) extends Storage m where
  /-- The bytes of the nearest file of a name, in the working directory or above it. -/
  nearest? : Text → m (Option (List UInt8))
  /-- Whether workbooks can be archived. -/
  workbooks : Bool
  /-- The bytes of an archive that is made of a workbook now. -/
  archive : Workbook → m (List UInt8)

def SystemFault.textOf (bytes : List UInt8) : Except SystemFault Text :=
  match Utf8.text? bytes with
  | some t => .ok t
  | none => .error .notText

namespace Storage

variable {m : Type → Type} [Monad m] (storage : Storage m)

def readText (path : Path) : m (Except SystemFault Text) := do
  return (← storage.read path).bind SystemFault.textOf

/-- Makes a directory that may be there already. -/
def ensureDirectory (path : Path) : m (Option SystemFault) := do
  match ← storage.makeDirectory path with
  | .ok () => return none
  | .error e => return if ← storage.isDirectory path then none else some e

/-- Makes a directory after those that contain it, the nearest of which comes first. The others are
turned to only when the first lacks its own directory. -/
def ensureDirectories : List Path → m (Option SystemFault)
  | [] => return none
  | path :: above => do
    match ← storage.ensureDirectory path with
    | none => return none
    | some e =>
      if e = .noEntry then
        match ← ensureDirectories above with
        | none => storage.ensureDirectory path
        | some e' => return some e'
      else return some e

def ensureParents (path : Path) : m (Option SystemFault) := do
  match Path.parents path with
  | [] => return none
  | parent :: above =>
    if ← storage.isThere parent then return none
    else storage.ensureDirectories (parent :: above)

/-- Stores bytes at a path, in directories that are made if they are missing. -/
def save (path : Path) (bytes : List UInt8) : m (Option SystemFault) := do
  match ← storage.ensureParents path with
  | some e => return some e
  | none =>
    match ← storage.writeFile path bytes with
    | .ok () => return none
    | .error e => return some e

end Storage

def Host.bytes {m : Type → Type} [Monad m] (host : Host m) : Content → m (List UInt8)
  | .text t => return Utf8.encode t
  | .workbook w => host.archive w

end SchemaSheet
