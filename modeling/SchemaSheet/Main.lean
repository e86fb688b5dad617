import SchemaSheet.Command.Run

/-! The program: the machine it runs on as a host, and the printing of what a run leaves. This build
writes no workbooks, since it brings no archives along, and the advice that it gives is how the
command is used. -/

namespace SchemaSheet.Program

abbrev Act := EIO SystemFault

/-- An error number, which some calls report with its sign turned. -/
def numbered (n : UInt32) : SystemFault :=
  .code (if n.toNat < Nat.pow 2 31 then n.toNat else Nat.pow 2 32 - n.toNat)

/-- What a failed call of the system means. -/
def faultOf : IO.Error → SystemFault
  | .alreadyExists _ n _ | .noFileOrDirectory _ n _ | .permissionDenied _ n _
  | .inappropriateType _ n _ | .invalidArgument _ n _ | .resourceExhausted _ n _
  | .noSuchThing _ n _ => numbered n
  | .otherError n _ | .resourceBusy n _ | .hardwareFault n _ | .unsatisfiedConstraints n _
  | .illegalOperation n _ | .resourceVanished n _ | .unsupportedOperation n _ => numbered n
  | e => .other (toString e).toList

def act {α : Type} (x : IO α) : Act α := x.toEIO faultOf

def nameOf (path : Path) : Act String :=
  if path.contains '\x00' then throw .nulInPath
  else if path.isEmpty then throw .noEntry
  else pure (String.ofList path)

def read (path : Path) : Act (List UInt8) := do
  return (← act (IO.FS.readBinFile (← nameOf path))).toList

def opens (path : Path) : BaseIO Bool := do
  let opened ← (do act (IO.FS.Handle.mk (← nameOf path) .read)).toBaseIO
  return opened.toOption.isSome

def nearest? (name : Text) : List Path → BaseIO (Option (List UInt8))
  | [] => return none
  | directory :: above => do
    match ← (read (directory ++ ['/'] ++ name)).toBaseIO with
    | .ok bytes => return some bytes
    | .error _ => nearest? name above

/-- This machine, with a working directory. -/
def host (here : Path) : Host BaseIO where
  read path := (read path).toBaseIO
  isThere := opens
  isDirectory path := opens (path ++ "/.".toList)
  makeDirectory path := (do act (IO.FS.createDir (← nameOf path))).toBaseIO
  writeFile path bytes :=
    (do act (IO.FS.writeBinFile (← nameOf path) ⟨bytes.toArray⟩)).toBaseIO
  nearest? name := nearest? name (Path.ancestors here)
  workbooks := false
  archive _ := return []

def environment : IO Environment := do
  try
    let entries := Text.pieces 0 (← IO.FS.readBinFile "/proc/self/environ").toList
    return entries.filterMap fun bytes =>
      let entry := Text.Utf8.lossy bytes
      match entry.dropWhile (· != '=') with
      | [] => none
      | _ :: value => some (entry.takeWhile (· != '='), value)
  catch _ => return []

def advice : Command.Advice := fun _ e =>
  match e with
  | .repeated _ | .unexpectedArgument _ | .unexpectedValue .. =>
    "\n\n".toList ++ Help.usageLine
  | .valueMissing _ | .unknownFormat .. => []

def run (arguments : List Text) : IO UInt32 := do
  let here := (← IO.currentDir).toString.toList
  let env ← environment
  let report ← (Command.execute (host here) advice env arguments : BaseIO Command.Report)
  report.remarks.forM fun r => IO.eprint (String.ofList r.printed)
  IO.print (String.ofList report.output)
  return report.status.toUInt32

end SchemaSheet.Program

def main (arguments : List String) : IO UInt32 :=
  SchemaSheet.Program.run (arguments.map String.toList)
