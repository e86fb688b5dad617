import SchemaSheet.Fault.Write

/-! Why an extraction ended without a sheet. -/

namespace SchemaSheet

inductive ExtractFault where
  | unreadable (schema : Text) (cause : SystemFault)
  | noModels (schema : Text)
  | notWritten (output : Text) (cause : WriteFault)
  /-- A strict run met notices. -/
  | problems (count : Nat)
  deriving DecidableEq, Repr

def ExtractFault.message : ExtractFault → Text
  | unreadable schema cause =>
    "Schema file not found or unreadable: ".toList ++ schema ++ " (".toList ++ cause.message ++
      [')']
  | noModels schema => "No models found in ".toList ++ schema
  | notWritten output cause =>
    "Failed to write ".toList ++ output ++ ": ".toList ++ cause.message
  | problems count => Text.ofNat count ++ " problem(s) found in schema (strict mode)".toList

end SchemaSheet
