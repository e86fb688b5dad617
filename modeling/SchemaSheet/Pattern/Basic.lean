import SchemaSheet.Pattern.Body
import SchemaSheet.Pattern.Meaning

/-! Patterns as texts: the expression that a text spells, or a report on what is wrong with it. -/

namespace SchemaSheet.Pattern

def tooLarge : Text :=
  "Compiled regex exceeds size limit of ".toList ++ Text.ofNat Expr.maxSize ++ " bytes.".toList

def expression (t : Text) : Except Text Expr :=
  match do (← Tree.ofText t).meaning {} with
  | .error f => .error (f.report t)
  | .ok (e, _) => if Expr.maxSize < e.size then .error tooLarge else .ok e

end SchemaSheet.Pattern
