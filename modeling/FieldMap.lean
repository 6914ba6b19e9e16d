import FieldMap.Text.Printable
import FieldMap.Text.Alphanumeric
import FieldMap.Text.Digit
import FieldMap.Text.Normal
import FieldMap.Text.Case
import FieldMap.Text.Blank
import FieldMap.Text.Cut
import FieldMap.Text.Wildcard
import FieldMap.Text.Base64
import FieldMap.Number.Extended
import FieldMap.Number.Shortest
import FieldMap.Number.Decimal
import FieldMap.Number.Arithmetic
import FieldMap.Time
import FieldMap.Fault
import FieldMap.Value.Equality
import FieldMap.Value.Written
import FieldMap.Value.Order
import FieldMap.Path
import FieldMap.FieldKey
import FieldMap.Json.Reader
import FieldMap.Json.Writer
import FieldMap.Yaml.Document
import FieldMap.Chain
import FieldMap.Chain.Indirection
import FieldMap.Guard
import FieldMap.Template
import FieldMap.Extraction
import FieldMap.Location
import FieldMap.FileTree
import FieldMap.FileTree.Search
import FieldMap.FileTree.Document
import FieldMap.Model.Document
import FieldMap.Request.Address
import FieldMap.Request
import FieldMap.Command
import FieldMap.Main
import FieldMap.Proofs.Guard.Shape
import FieldMap.Proofs.Precedence
import FieldMap.Proofs.Inlining
import FieldMap.Proofs.Arrangement
import FieldMap.Proofs.Chain.Written
import FieldMap.Proofs.FieldKey
import FieldMap.Proofs.Command
import FieldMap.Proofs.Edit
import FieldMap.Proofs.Document
import FieldMap.Proofs.Indirection.Limit
import FieldMap.Proofs.Accounting
import FieldMap.Proofs.Request.Body
import FieldMap.Proofs.Request.Query
import FieldMap.Proofs.Nesting
import FieldMap.Proofs.Reading
import FieldMap.Proofs.Request.Header
import FieldMap.Proofs.Modifier
import FieldMap.Proofs.Guard.Failure
import FieldMap.Proofs.Chain.Insertion
import FieldMap.Proofs.Request.Payload
import FieldMap.Proofs.NameClause
import FieldMap.Proofs.Processor
import FieldMap.Proofs.Processor.Settled
import FieldMap.Proofs.FileTree
