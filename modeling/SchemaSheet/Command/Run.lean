import SchemaSheet.Command.Arguments
import SchemaSheet.Command.Console
import SchemaSheet.Command.EnvFile
import SchemaSheet.Command.Help
import SchemaSheet.Command.LogFilter

/-! A run of the command: settings are completed from a file, arguments are read, and the request
they make is carried out. The command runs on any host; `run` is its run on a tree of files. -/

namespace SchemaSheet.Command

/-- Everything that a run leaves to be printed, and its exit status. -/
structure Report where
  /-- Zero for success, one for failure, two for a misused command line. -/
  status : Nat
  output : Text := []
  /-- What is wrong with the log filter. -/
  warnings : List Text := []
  /-- Why the run failed, as it is printed. -/
  complaint : Option Text := none
  /-- The records that the log filter shows. -/
  log : List LogRecord := []
  deriving DecidableEq, Repr

def Report.remarks (r : Report) : List Remark :=
  r.warnings.map (fun w => .note (w ++ ['\n'])) ++ r.log.map .record ++
    r.complaint.toList.map .note

def versionText : Text := "dbdef-cli 0.1.0\n".toList

def logVariable : Text := "RUST_LOG".toList

/-- What is shown of the log if nothing else is asked for. -/
def defaultLog : Text := "info".toList

def logFilter (env : Environment) : LogFilter :=
  LogFilter.ofText ((env.value? logVariable).getD defaultLog)

/-- Whether styles are kept although nothing is printed to a terminal. -/
def keepsStyles (env : Environment) : Bool :=
  ((env.value? "NO_COLOR".toList).getD []).isEmpty &&
    (env.value? "CLICOLOR_FORCE".toList).any (· != ['0'])

def usageText (env : Environment) (e : UsageFault) (advice : Text) : Text :=
  if keepsStyles env then e.report advice else Terminal.plain (e.report advice)

/-- What is printed for a request for help. -/
def helpText (env : Environment) : Text :=
  if keepsStyles env then Help.text env else Terminal.plain (Help.text env)

def report (filter : LogFilter) (r : Request) :
    Except ExtractFault Summary × List LogRecord → Report
  | (.ok summary, log) => {
      status := 0, output := summary.message r.output ++ ['\n'], warnings := filter.warnings
      log := log.filter filter.shows }
  | (.error e, log) => {
      status := 1, warnings := filter.warnings, complaint := some (e.message ++ ['\n'])
      log := log.filter filter.shows }

/-- What advice is given to someone who misused the command line: it depends on the arguments and
on what is wrong with them, and on nothing else. -/
abbrev Advice := List Text → UsageFault → Text

/-- Runs the command on a host. -/
def execute {m : Type → Type} [Monad m] (host : Host m) (advice : Advice) (env : Environment)
    (arguments : List Text) : m Report := do
  let env := EnvFile.load env (← host.nearest? EnvFile.fileName)
  let filter := logFilter env
  match Arguments.read env arguments with
  | .error e =>
    return {
      status := 2, warnings := filter.warnings
      complaint := some (usageText env e (advice arguments e)) }
  | .ok .help => return { status := 0, output := helpText env, warnings := filter.warnings }
  | .ok .version => return { status := 0, output := versionText, warnings := filter.warnings }
  | .ok (.run a) => return report filter a.request (← a.request.carryOut host)

/-- Everything that a run on a tree of files depends on. -/
structure Invocation where
  arguments : List Text := []
  environment : Environment := []
  files : Files := {}
  build : Build := .plain
  now : Nat := 0
  advice : Advice := fun _ _ => []

def run (i : Invocation) : Report × Files :=
  execute (Files.host i.build i.now) i.advice i.environment i.arguments i.files

/-- The environment of a run, settings from a file included. -/
def Invocation.settled (i : Invocation) : Environment :=
  EnvFile.load i.environment (i.files.nearest? EnvFile.fileName i.files.here.reverse)

theorem run_eq (i : Invocation) :
    run i =
      match Arguments.read i.settled i.arguments with
      | .error e => ({
          status := 2, warnings := (logFilter i.settled).warnings
          complaint := some (usageText i.settled e (i.advice i.arguments e)) }, i.files)
      | .ok .help => ({
          status := 0, output := helpText i.settled, warnings := (logFilter i.settled).warnings },
          i.files)
      | .ok .version => ({
          status := 0, output := versionText, warnings := (logFilter i.settled).warnings }, i.files)
      | .ok (.run a) =>
        let done := extract i.build i.now a.request i.files
        (report (logFilter i.settled) a.request (done.result, done.log), done.files) := by
  have hfile : (Files.host i.build i.now).nearest? EnvFile.fileName i.files =
      (i.files.nearest? EnvFile.fileName i.files.here.reverse, i.files) := rfl
  have hsettled : EnvFile.load i.environment
      (i.files.nearest? EnvFile.fileName i.files.here.reverse) = i.settled := rfl
  simp only [run, execute, Files.run_bind, hfile, hsettled]
  cases Arguments.read i.settled i.arguments with
  | error e => rfl
  | ok order => cases order <;> rfl

end SchemaSheet.Command
