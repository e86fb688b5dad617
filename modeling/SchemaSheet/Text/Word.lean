import SchemaSheet.Text.Basic
import SchemaSheet.Text.WordRanges

/-! Word characters make up names: ASCII letters, digits and the underscore, and beyond ASCII the
ranges of `wordRanges`. -/

namespace SchemaSheet.Text

def isWord (c : Char) : Bool :=
  if c.toNat < 0x80 then c.isAlphanum || c == '_'
  else wordRanges.any fun r => r.1 ≤ c.toNat && c.toNat ≤ r.2

/-- A word that ends before `t` is not continued by it. -/
def atWordEnd : Text → Bool
  | [] => true
  | c :: _ => !isWord c

end SchemaSheet.Text
