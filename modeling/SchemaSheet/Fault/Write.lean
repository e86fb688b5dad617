import SchemaSheet.Fault.System

/-! Why a sheet could not be rendered or stored. -/

namespace SchemaSheet

inductive WriteFault where
  | system (cause : SystemFault)
  /-- Comma separated values could not be written. -/
  | csv (cause : SystemFault)
  /-- The rows cannot be put into the format. -/
  | serialization (reason : Text)
  /-- The format is not available. -/
  | unsupported (reason : Text)
  | general (reason : Text)
  deriving DecidableEq, Repr

def WriteFault.message : WriteFault → Text
  | system cause => "IO Error: ".toList ++ cause.message
  | csv cause => "CSV Error: ".toList ++ cause.message
  | serialization reason => "Serialization Error: ".toList ++ reason
  | unsupported reason => "Unsupported: ".toList ++ reason
  | general reason => "General Error: ".toList ++ reason

end SchemaSheet
