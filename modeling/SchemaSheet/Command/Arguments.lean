import SchemaSheet.Command.Environment
import SchemaSheet.Extract
import SchemaSheet.Terminal

/-! The arguments of the command line. Options take a value, in the same argument behind an equals
sign or in the next one; an option that is not given takes its value from the environment, and
paths have a default. -/

namespace SchemaSheet

inductive CommandOption where
  | schemaPath | output | format
  deriving DecidableEq, Repr

inductive Flag where
  | minimal | strict | help | version
  deriving DecidableEq, Repr

namespace CommandOption

def name : CommandOption → Text
  | schemaPath => "schema-path".toList
  | output => "output".toList
  | format => "format".toList

/-- How an option is written in messages. -/
def shown : CommandOption → Text
  | schemaPath => "--schema-path <SCHEMA_PATH>".toList
  | output => "--output <OUTPUT>".toList
  | format => "--format <FORMAT>".toList

def variableName : CommandOption → Text
  | schemaPath => "DBDEF_SCHEMA_PATH".toList
  | output => "DBDEF_OUTPUT".toList
  | format => "DBDEF_FORMAT".toList

def all : List CommandOption := [schemaPath, output, format]

end CommandOption

namespace Flag

def name : Flag → Text
  | minimal => "minimal".toList
  | strict => "strict".toList
  | help => "help".toList
  | version => "version".toList

def shown (f : Flag) : Text := "--".toList ++ f.name

def all : List Flag := [minimal, strict, help, version]

end Flag

inductive UsageFault where
  | valueMissing (o : CommandOption)
  | repeated (shown : Text)
  | unknownFormat (value reason : Text)
  | unexpectedArgument (shown : Text)
  | unexpectedValue (f : Flag) (value : Text)
  deriving DecidableEq, Repr

namespace UsageFault

open Terminal

def message : UsageFault → Text
  | valueMissing o =>
    "a value is required for '".toList ++ Style.invalid.on o.shown ++
      "' but none was supplied".toList
  | repeated shown =>
    "the argument '".toList ++ Style.invalid.on shown ++ "' cannot be used multiple times".toList
  | unknownFormat value reason =>
    "invalid value '".toList ++ Style.invalid.on value ++ "' for '".toList ++
      Style.literal.on CommandOption.format.shown ++ "': ".toList ++ reason
  | unexpectedArgument shown =>
    "unexpected argument '".toList ++ Style.invalid.on shown ++ "' found".toList
  | unexpectedValue f value =>
    "unexpected value '".toList ++ Style.invalid.on value ++ "' for '".toList ++
      Style.literal.on f.shown ++ "' found; no more were expected".toList

/-- All there is to say about a misused command line, styled for a terminal. What advice is given,
such as how the command is used or a name that resembles an unknown one, is left open. -/
def report (e : UsageFault) (advice : Text) : Text :=
  Style.fault.on "error:".toList ++ [' '] ++ e.message ++ advice ++
    "\n\nFor more information, try '".toList ++ Style.literal.on "--help".toList ++ "'.\n".toList

end UsageFault

structure Arguments where
  schemaPath : Option Path := none
  output : Option Path := none
  format : Option Format := none
  minimal : Bool := false
  strict : Bool := false
  deriving DecidableEq, Repr

/-- What the command line asks for when it is understood. -/
inductive Order where
  | run (a : Arguments)
  | help
  | version
  deriving DecidableEq, Repr

namespace Arguments

def has (a : Arguments) : CommandOption → Bool
  | .schemaPath => a.schemaPath.isSome
  | .output => a.output.isSome
  | .format => a.format.isSome

/-- Gives an option a value. A path must not be empty. -/
def give (a : Arguments) (o : CommandOption) (value : Text) : Except UsageFault Arguments :=
  match o with
  | .schemaPath =>
    if value.isEmpty then .error (.valueMissing o) else .ok { a with schemaPath := some value }
  | .output =>
    if value.isEmpty then .error (.valueMissing o) else .ok { a with output := some value }
  | .format =>
    match Format.named value with
    | .ok f => .ok { a with format := some f }
    | .error reason => .error (.unknownFormat value reason)

/-- An option of the command line, with its value if it has one. It may be given once. -/
def takeOption (a : Arguments) (o : CommandOption) : Option Text → Except UsageFault Arguments
  | none => .error (.valueMissing o)
  | some value => if a.has o then .error (.repeated o.shown) else a.give o value

end Arguments

/-- The arguments so far. An option that waits for its value, or has just got it, is taken only when
something else is met: what cannot be understood is reported first. -/
structure ArgumentReader where
  given : Arguments := {}
  pending : Option (CommandOption × Option Text) := none
  deriving DecidableEq, Repr

namespace ArgumentReader

open Text

/-- The arguments with the pending option. -/
def settle (r : ArgumentReader) : Except UsageFault Arguments :=
  match r.pending with
  | none => .ok r.given
  | some (o, value) => r.given.takeOption o value

inductive Step where
  | more (r : ArgumentReader)
  | stop (o : Order)
  deriving DecidableEq, Repr

def takeFlag (r : ArgumentReader) (f : Flag) : Except UsageFault Step := do
  let a ← r.settle
  match f with
  | .minimal =>
    if a.minimal then .error (.repeated f.shown)
    else .ok (.more ⟨{ a with minimal := true }, none⟩)
  | .strict =>
    if a.strict then .error (.repeated f.shown)
    else .ok (.more ⟨{ a with strict := true }, none⟩)
  | .help => .ok (.stop .help)
  | .version => .ok (.stop .version)

/-- An argument that begins with two dashes: its name, and the value behind an equals sign. -/
def takeLong (r : ArgumentReader) (name : Text) (value : Option Text) : Except UsageFault Step := do
  match CommandOption.all.find? (·.name == name), Flag.all.find? (·.name == name), value with
  | some o, _, some v => return .more ⟨← (← r.settle).takeOption o (some v), none⟩
  | some o, _, none => return .more ⟨← r.settle, some (o, none)⟩
  | none, some f, none => r.takeFlag f
  | none, some f, some v => .error (.unexpectedValue f v)
  | none, none, _ => .error (.unexpectedArgument ("--".toList ++ name))

/-- An argument that begins with one dash, whose first letter counts. -/
def takeShort (r : ArgumentReader) (letter : Char) : Except UsageFault Step :=
  if letter = 'V' then r.takeFlag .version
  else if letter = 'h' then r.takeFlag .help
  else .error (.unexpectedArgument ['-', letter])

/-- An argument that is a value, for the option that waits for one. -/
def takeValue (r : ArgumentReader) (value : Text) : Except UsageFault Step :=
  match r.pending with
  | some (o, none) => .ok (.more { r with pending := some (o, some value) })
  | _ => .error (.unexpectedArgument value)

/-- Splits an argument at its first equals sign. -/
def split (t : Text) : Text × Option Text :=
  (t.takeWhile (· != '='), match t.dropWhile (· != '=') with
    | [] => none
    | _ :: v => some v)

def take (r : ArgumentReader) (argument : Text) : Except UsageFault Step :=
  match argument with
  | '-' :: '-' :: long => let (name, value) := split long; r.takeLong name value
  | '-' :: letter :: _ => r.takeShort letter
  | value => r.takeValue value

/-- Takes arguments in order. Two dashes alone end the options, and nothing may follow them. -/
def takeAll (r : ArgumentReader) : List Text → Except UsageFault Order
  | [] => do return .run (← r.settle)
  | argument :: rest =>
    if argument = "--".toList then
      match rest with
      | [] => do return .run (← r.settle)
      | extra :: _ => .error (.unexpectedArgument extra)
    else
      match r.take argument with
      | .error e => .error e
      | .ok (.stop o) => .ok o
      | .ok (.more r') => r'.takeAll rest

end ArgumentReader

namespace Arguments

def fromEnvironment (env : Environment) (a : Arguments) (o : CommandOption) :
    Except UsageFault Arguments :=
  if a.has o then .ok a
  else match env.value? o.variableName with
    | some value => a.give o value
    | none => .ok a

def read (env : Environment) (arguments : List Text) : Except UsageFault Order := do
  match ← ArgumentReader.takeAll {} arguments with
  | .run a => return .run (← CommandOption.all.foldlM (fromEnvironment env) a)
  | order => return order

def defaultSchemaPath : Path := "server/prisma/schema.prisma".toList
def defaultOutput : Path := "database_definition.csv".toList

def request (a : Arguments) : Request where
  schema := a.schemaPath.getD defaultSchemaPath
  output := a.output.getD defaultOutput
  format := a.format
  minimal := a.minimal
  strict := a.strict

end Arguments

end SchemaSheet
