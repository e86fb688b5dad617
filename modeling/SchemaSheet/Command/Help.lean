import SchemaSheet.Command.Arguments

/-! The help text: what the command is for, and an entry for each argument. The entry of an option
shows the value that the environment has for it at the time, given or not, and its default. -/

namespace SchemaSheet

namespace CommandOption

def about : CommandOption → Text
  | schemaPath => "Path to the Prisma schema file".toList
  | output =>
    "Output path for the definition sheet. ".toList ++
      "The format follows the extension (.csv, .xlsx, .json, .yaml/.yml) ".toList ++
      "unless \x60--format\x60 is set".toList
  | format => "Explicit output format: csv, xlsx, json or yaml".toList

def default? : CommandOption → Option Text
  | schemaPath => some Arguments.defaultSchemaPath
  | output => some Arguments.defaultOutput
  | format => none

end CommandOption

namespace Flag

def about : Flag → Text
  | minimal => "Only emit Table Name, Column Name and Data Type".toList
  | strict => "Fail instead of silently dropping lines the parser does not understand".toList
  | help => "Print help".toList
  | version => "Print version".toList

def letter? : Flag → Option Char
  | help => some 'h'
  | version => some 'V'
  | _ => none

end Flag

namespace Help

open Terminal

def aboutColumn : Nat := 35

/-- An explanation, of which all lines but the first are indented. -/
def indented (about : Text) : Text :=
  about.flatMap fun c => if c = '\n' then c :: List.replicate aboutColumn ' ' else [c]

/-- An argument and what it is for. -/
def entry (letter : Option Char) (shown about : Text) : Text :=
  let short := match letter with
    | some c => Style.literal.on ['-', c] ++ ", ".toList
    | none => "    ".toList
  "  ".toList ++ short ++
    Style.literal.on (shown.takeWhile (· != ' ')) ++ shown.dropWhile (· != ' ') ++
    List.replicate (aboutColumn - 6 - shown.length) ' ' ++ indented about ++ ['\n']

/-- The value that the environment has for an option, as the help text shows it. -/
def valueOf (env : Environment) (o : CommandOption) : Text :=
  (env.value? o.variableName).getD []

def defaultNote (o : CommandOption) : Text :=
  match o.default? with
  | some value => " [default: ".toList ++ value ++ [']']
  | none => []

def ofOption (env : Environment) (o : CommandOption) : Text :=
  entry none o.shown (o.about ++
    " [env: ".toList ++ o.variableName ++ ['='] ++ valueOf env o ++ [']'] ++ defaultNote o)

def ofFlag (f : Flag) : Text := entry f.letter? f.shown f.about

def usageLine : Text :=
  Style.heading.on "Usage:".toList ++ [' '] ++ Style.literal.on "dbdef".toList ++
    " [OPTIONS]".toList

def usage : Text :=
  "Prisma schema to database definition sheet\n\n".toList ++ usageLine ++ "\n\n".toList ++
    Style.heading.on "Options:".toList ++ ['\n']

def text (env : Environment) : Text :=
  usage ++ CommandOption.all.flatMap (ofOption env) ++ Flag.all.flatMap ofFlag

end Help

end SchemaSheet
