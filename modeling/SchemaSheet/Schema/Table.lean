import SchemaSheet.Text.Basic

/-! What a schema declares: tables, and the columns of each in the order of declaration. -/

namespace SchemaSheet

structure Attributes where
  primaryKey : Bool := false
  unique : Bool := false
  /-- The argument of `@default`, empty if there is none. -/
  defaultValue : Text := []
  /-- The comment at the end of the line, empty if there is none. -/
  comment : Text := []
  deriving DecidableEq, Repr, Inhabited

structure Column extends Attributes where
  name : Text
  /-- The type without its question mark; brackets stay. -/
  dataType : Text
  nullable : Bool := false
  deriving DecidableEq, Repr, Inhabited

structure Table where
  name : Text
  columns : List Column := []
  deriving DecidableEq, Repr, Inhabited

end SchemaSheet
