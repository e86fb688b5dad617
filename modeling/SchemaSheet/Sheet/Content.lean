import SchemaSheet.Sheet.Workbook.Basic
import SchemaSheet.Text.Utf8

/-! What a sheet is before it is stored. -/

namespace SchemaSheet

inductive Content where
  | text (t : Text)
  | workbook (w : Workbook)
  deriving DecidableEq, Repr

/-- The bytes that a content is stored as. A text is encoded; how workbooks are put into archives
is left open. -/
def Content.bytes (archive : Workbook → List UInt8) : Content → List UInt8
  | text t => Text.Utf8.encode t
  | workbook w => archive w

end SchemaSheet
