import SchemaSheet.Files.Host
import SchemaSheet.Files.Tree

/-! Reading and writing by path in a tree of files. A path is followed piece by piece from the root
or the working directory, and each call either does what it says or leaves the files alone. With
these calls a tree answers what a program asks of a machine, and each program about files gets an
equation that says what it makes of a tree. -/

namespace SchemaSheet

/-- Bytes of a path, its end included, and of a name. -/
def Path.maxSize : Nat := 4096
def Path.maxName : Nat := 255

/-- What is wrong with a path whatever there is on the way. -/
def Path.fault? (path : Path) : Option SystemFault :=
  if path.contains '\x00' then some .nulInPath
  else if path.isEmpty then some .noEntry
  else if Path.maxSize ≤ Text.Utf8.size path then some .nameTooLong
  else none

namespace Files

open Text

/-- Where a path is followed from. -/
def start (fs : Files) (path : Path) : Place :=
  if path.head? = some '/' then [] else fs.here

def walk (fs : Files) : Place → List Text → Except SystemFault Place
  | p, [] => .ok p
  | p, name :: rest =>
    if !fs.isDirectory p then .error .notDirectory
    else if Path.isIdle name then fs.walk p rest
    else if name = "..".toList then fs.walk p.dropLast rest
    else if Path.maxName < Utf8.size name then .error .nameTooLong
    else if (fs.find? (p ++ [name])).isNone then .error .noEntry
    else fs.walk (p ++ [name]) rest

/-- The place that a path leads to, at which there is something. -/
def locate (fs : Files) (path : Path) : Except SystemFault Place :=
  match path.fault? with
  | some e => .error e
  | none => fs.walk (fs.start path) (pieces '/' path)

def existsAt (fs : Files) (path : Path) : Bool := (fs.locate path).toOption.isSome

def directoryAt (fs : Files) (path : Path) : Bool :=
  (fs.locate path).toOption.any fs.isDirectory

def readFile (fs : Files) (path : Path) : Except SystemFault (List UInt8) := do
  match fs.find? (← fs.locate path) with
  | some (.file bytes) => .ok bytes
  | some .sink => .ok []
  | some .directory => .error .isDirectory
  | none => .error .noEntry

/-- Where something new would be: a directory, and the last piece of the path. A path to the root
has no such piece. -/
def slot (fs : Files) (path : Path) : Except SystemFault (Option (Place × Text)) :=
  match path.fault? with
  | some e => .error e
  | none =>
    match (pieces '/' path).reverse.dropWhile List.isEmpty with
    | [] => .ok none
    | name :: before => do
      let p ← fs.walk (fs.start path) before.reverse
      if fs.isDirectory p then .ok (some (p, name)) else .error .notDirectory

def isDots (name : Text) : Bool := name == ['.'] || name == ['.', '.']

def makeDirectory (fs : Files) (path : Path) : Except SystemFault Files := do
  match ← fs.slot path with
  | none => .error .alreadyExists
  | some (p, name) =>
    if isDots name then .error .alreadyExists
    else if Path.maxName < Utf8.size name then .error .nameTooLong
    else if (fs.find? (p ++ [name])).isSome then .error .alreadyExists
    else .ok (fs.put (p ++ [name]) .directory)

/-- Makes the file at a path, or gives it other bytes. -/
def writeFile (fs : Files) (path : Path) (bytes : List UInt8) : Except SystemFault Files := do
  match ← fs.slot path with
  | none => .error .isDirectory
  | some (p, name) =>
    if isDots name || path.getLast? == some '/' then .error .isDirectory
    else if Path.maxName < Utf8.size name then .error .nameTooLong
    else if fs.isDirectory (p ++ [name]) then .error .isDirectory
    else .ok (fs.put (p ++ [name]) (.written bytes (fs.find? (p ++ [name]))))

/-- The bytes of the nearest file of a name, in a place or above it, given that place's names with
the last one first. -/
def nearest? (fs : Files) (name : Text) : List Text → Option (List UInt8)
  | [] =>
    match fs.find? [name] with
    | some (.file bytes) => some bytes
    | _ => none
  | last :: above =>
    match fs.find? ((last :: above).reverse ++ [name]) with
    | some (.file bytes) => some bytes
    | _ => fs.nearest? name above

def change (call : Files → Except SystemFault Files) : StateM Files (Except SystemFault Unit) :=
  fun fs =>
    match call fs with
    | .ok fs' => (.ok (), fs')
    | .error e => (.error e, fs)

/-- The tree that the state holds, as the files of a machine. -/
def storage : Storage (StateM Files) where
  read path := return (← get).readFile path
  isThere path := return (← get).existsAt path
  isDirectory path := return (← get).directoryAt path
  makeDirectory path := change (·.makeDirectory path)
  writeFile path bytes := change (·.writeFile path bytes)

theorem run_bind {α β : Type} (x : StateM Files α) (f : α → StateM Files β) (fs : Files) :
    (x >>= f) fs = f (x fs).1 (x fs).2 := rfl

theorem run_isThere (fs : Files) (path : Path) :
    storage.isThere path fs = (fs.existsAt path, fs) := rfl

theorem run_isDirectory (fs : Files) (path : Path) :
    storage.isDirectory path fs = (fs.directoryAt path, fs) := rfl

theorem run_makeDirectory (fs : Files) (path : Path) :
    storage.makeDirectory path fs = change (·.makeDirectory path) fs := rfl

theorem run_writeFile (fs : Files) (path : Path) (bytes : List UInt8) :
    storage.writeFile path bytes fs = change (·.writeFile path bytes) fs := rfl

def readText (fs : Files) (path : Path) : Except SystemFault Text :=
  (fs.readFile path).bind SystemFault.textOf

theorem run_readText (fs : Files) (path : Path) :
    storage.readText path fs = (fs.readText path, fs) := rfl

structure Outcome where
  files : Files
  fault : Option SystemFault := none
  deriving DecidableEq, Repr

def Outcome.of (program : StateM Files (Option SystemFault)) (fs : Files) : Outcome :=
  ⟨(program fs).2, (program fs).1⟩

def ensureDirectory (fs : Files) (path : Path) : Outcome := .of (storage.ensureDirectory path) fs

def ensureDirectories (fs : Files) (paths : List Path) : Outcome :=
  .of (storage.ensureDirectories paths) fs

def ensureParents (fs : Files) (path : Path) : Outcome := .of (storage.ensureParents path) fs

/-- Stores bytes at a path, in directories that are made if they are missing. -/
def save (fs : Files) (path : Path) (bytes : List UInt8) : Outcome :=
  .of (storage.save path bytes) fs

theorem ensureDirectory_eq (fs : Files) (path : Path) :
    fs.ensureDirectory path =
      match fs.makeDirectory path with
      | .ok fs' => ⟨fs', none⟩
      | .error e => if fs.directoryAt path then ⟨fs, none⟩ else ⟨fs, some e⟩ := by
  simp only [ensureDirectory, Outcome.of, Storage.ensureDirectory, run_bind, run_makeDirectory,
    change]
  cases fs.makeDirectory path with
  | ok fs' => rfl
  | error e =>
    have hcall := run_isDirectory fs path
    cases hdir : fs.directoryAt path <;> simp only [run_bind, hcall, hdir] <;> rfl

theorem ensureDirectories_cons (fs : Files) (path : Path) (above : List Path) :
    fs.ensureDirectories (path :: above) =
      match fs.ensureDirectory path with
      | ⟨fs', some e⟩ =>
        if e = .noEntry then
          match fs'.ensureDirectories above with
          | ⟨fs'', none⟩ => fs''.ensureDirectory path
          | stopped => stopped
        else ⟨fs', some e⟩
      | done => done := by
  simp only [ensureDirectories, ensureDirectory, Outcome.of, Storage.ensureDirectories, run_bind]
  rcases storage.ensureDirectory path fs with ⟨_ | e, fs'⟩
  · rfl
  · by_cases he : e = .noEntry
    · simp only [he, if_true, run_bind]
      rcases storage.ensureDirectories above fs' with ⟨_ | e', fs''⟩ <;> rfl
    · simp only [he, if_false]
      rfl

theorem ensureParents_eq (fs : Files) (path : Path) :
    fs.ensureParents path =
      match Path.parents path with
      | [] => ⟨fs, none⟩
      | parent :: above =>
        if fs.existsAt parent then ⟨fs, none⟩ else fs.ensureDirectories (parent :: above) := by
  simp only [ensureParents, Outcome.of, Storage.ensureParents]
  cases Path.parents path with
  | nil => rfl
  | cons parent above =>
    have hcall := run_isThere fs parent
    cases hthere : fs.existsAt parent <;> simp only [run_bind, hcall, hthere] <;> rfl

theorem save_eq (fs : Files) (path : Path) (bytes : List UInt8) :
    fs.save path bytes =
      match fs.ensureParents path with
      | ⟨fs', none⟩ =>
        match fs'.writeFile path bytes with
        | .ok fs'' => ⟨fs'', none⟩
        | .error e => ⟨fs', some e⟩
      | stopped => stopped := by
  simp only [save, ensureParents, Outcome.of, Storage.save, run_bind]
  rcases storage.ensureParents path fs with ⟨_ | e, fs'⟩
  · simp only [run_bind, run_writeFile, change]
    cases fs'.writeFile path bytes <;> rfl
  · rfl

end Files

end SchemaSheet
