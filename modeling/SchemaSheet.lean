import SchemaSheet.Main
import SchemaSheet.Proofs.Text
import SchemaSheet.Proofs.Line
import SchemaSheet.Proofs.CharClass
import SchemaSheet.Proofs.Recognition
import SchemaSheet.Proofs.NestedHeader
import SchemaSheet.Proofs.Marker
import SchemaSheet.Proofs.Block
import SchemaSheet.Proofs.Reading
import SchemaSheet.Proofs.Attributes
import SchemaSheet.Proofs.Notices
import SchemaSheet.Proofs.Surface
import SchemaSheet.Proofs.RoundTrip
import SchemaSheet.Proofs.Growth
import SchemaSheet.Proofs.Failure
import SchemaSheet.Proofs.Concatenation
import SchemaSheet.Proofs.Strictness
import SchemaSheet.Proofs.Sheet.Csv
import SchemaSheet.Proofs.Sheet.Json
import SchemaSheet.Proofs.Sheet.Yaml.Document
import SchemaSheet.Proofs.Sheet.Rows
import SchemaSheet.Proofs.Store
import SchemaSheet.Proofs.Success
import SchemaSheet.Proofs.Utf8
import SchemaSheet.Proofs.Sheet.Decoding
import SchemaSheet.Proofs.Grammar
import SchemaSheet.Proofs.Insertion
import SchemaSheet.Proofs.Padding
import SchemaSheet.Proofs.Values
import SchemaSheet.Proofs.Precedence
import SchemaSheet.Proofs.Comment
import SchemaSheet.Proofs.Default
import SchemaSheet.Proofs.BareType
import SchemaSheet.Proofs.Trailing
import SchemaSheet.Proofs.Events
import SchemaSheet.Proofs.Extension
import SchemaSheet.Proofs.Sheet.Format
