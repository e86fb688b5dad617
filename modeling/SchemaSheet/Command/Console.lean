import SchemaSheet.Log

/-! What a run prints besides its output: remarks one after the other, and the lines that they make.
A remark need not end its line; the next one then goes on in it. -/

namespace SchemaSheet.Command

inductive Remark where
  | note (t : Text)
  | record (r : LogRecord)
  deriving DecidableEq, Repr

namespace Remark

def printed : Remark → Text
  | note t => t
  | record r => r.printed

def isRecord : Remark → Bool
  | note _ => false
  | record _ => true

end Remark

structure ConsoleLine where
  /-- Whether the line begins with a log record. -/
  isRecord : Bool
  text : Text
  deriving DecidableEq, Repr

namespace ConsoleLine

def behind (line : ConsoleLine) : List Remark → List ConsoleLine
  | [] => [line]
  | r :: rs =>
    match Text.lines r.printed with
    | [] => behind line rs
    | first :: more =>
      let line : ConsoleLine := ⟨if line.text.isEmpty then r.isRecord else line.isRecord,
        line.text ++ first⟩
      match more.reverse with
      | [] => behind line rs
      | last :: closed => line :: closed.reverse.map (⟨false, ·⟩) ++ behind ⟨false, last⟩ rs

def all (rs : List Remark) : List ConsoleLine := behind ⟨false, []⟩ rs

end ConsoleLine

end SchemaSheet.Command
