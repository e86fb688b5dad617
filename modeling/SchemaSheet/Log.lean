import SchemaSheet.Schema.Reading
import SchemaSheet.Terminal

/-! Log records: what a run tells about its progress. -/

namespace SchemaSheet

inductive Level where
  | error | warn | info | debug | trace
  deriving DecidableEq, Repr

namespace Level

def name : Level → Text
  | error => "ERROR".toList
  | warn => "WARN".toList
  | info => "INFO".toList
  | debug => "DEBUG".toList
  | trace => "TRACE".toList

/-- The more detailed a level, the higher its rank. -/
def rank : Level → Nat
  | error => 1
  | warn => 2
  | info => 3
  | debug => 4
  | trace => 5

end Level

inductive Origin where
  | reader
  | extraction
  deriving DecidableEq, Repr

/-- The name by which log filters know the part. -/
def Origin.target : Origin → Text
  | reader => "dbdef_core::parser::extractors".toList
  | extraction => "dbdef::extract".toList

structure LogRecord where
  level : Level
  origin : Origin
  text : Text
  deriving DecidableEq, Repr

namespace LogRecord

def ofEvent : Event → LogRecord
  | .opened n name =>
    ⟨.trace, .reader,
      "line ".toList ++ Text.ofNat n ++ ": opening model '".toList ++ name ++ ['\'']⟩
  | .finished name columns =>
    ⟨.debug, .reader,
      "model '".toList ++ name ++ "' finalized with ".toList ++ Text.ofNat columns ++
        " column(s)".toList⟩

def ofNotice (schema : Text) (n : Notice) : LogRecord :=
  ⟨.warn, .extraction, schema ++ ": ".toList ++ n.message⟩

/-- What is printed for a record: one line, and an indented line for each further line of its
text. It is plain. -/
def printed (r : LogRecord) : Text :=
  Terminal.plain (r.level.name ++ [' '] ++ r.origin.target ++ [' '] ++
    Text.joined "\n    ".toList (Text.lines r.text) ++ ['\n'])

end LogRecord

end SchemaSheet
