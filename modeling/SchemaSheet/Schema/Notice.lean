import SchemaSheet.Text.Basic

/-! Notices tell what the reader of a schema tolerated; they change no table. -/

namespace SchemaSheet

inductive Notice where
  /-- A line of a model that declares nothing; it was dropped. -/
  | malformedField (line : Nat) (model text : Text)
  /-- A header inside an open model, which stays open. -/
  | nestedHeader (line : Nat) (model name : Text)
  /-- The input ended inside the model that was opened at this line. -/
  | unterminated (line : Nat) (name : Text)
  /-- The header of a model whose name an earlier table has. -/
  | duplicate (line : Nat) (name : Text)
  deriving DecidableEq, Repr

namespace Notice

def line : Notice → Nat
  | malformedField n .. | nestedHeader n .. | unterminated n _ | duplicate n _ => n

def message : Notice → Text
  | malformedField n model text =>
    "line ".toList ++ Text.ofNat n ++ ": dropped unrecognized line in model '".toList ++ model ++
      "': ".toList ++ text
  | nestedHeader n model name =>
    "line ".toList ++ Text.ofNat n ++ ": model '".toList ++ name ++
      "' opened inside model '".toList ++ model ++ "' without a closing brace".toList
  | unterminated n name =>
    "line ".toList ++ Text.ofNat n ++ ": model '".toList ++ name ++ "' is never closed".toList
  | duplicate n name =>
    "line ".toList ++ Text.ofNat n ++ ": model '".toList ++ name ++
      "' is declared more than once".toList

end Notice

end SchemaSheet
