import FilterRules.Binary64.Basic
import FilterRules.Binary64.Decimal
import FilterRules.Binary64.Rounding
import FilterRules.Calendar.Date
import FilterRules.Calendar.Rfc3339
import FilterRules.Decimal.Notation
import FilterRules.Decimal.Shortest
import FilterRules.Decode.Error
import FilterRules.Decode.Fields
import FilterRules.Filter.Basic
import FilterRules.Filter.Compile
import FilterRules.Json.Basic
import FilterRules.Json.Fault
import FilterRules.Json.Members
import FilterRules.Json.Number
import FilterRules.Json.Printer
import FilterRules.Json.Reader
import FilterRules.Json.Scanner.Basic
import FilterRules.Json.Scanner.Chars
import FilterRules.Json.Scanner.Number
import FilterRules.Json.Skip
import FilterRules.Limits.Basic
import FilterRules.Limits.Decode
import FilterRules.Log
import FilterRules.Matching
import FilterRules.Operator
import FilterRules.Payload
import FilterRules.Record.Number
import FilterRules.Record.Path
import FilterRules.Record.Value
import FilterRules.Rule.Basic
import FilterRules.Rule.Error
import FilterRules.Rule.Evaluation
import FilterRules.Rule.Reader
import FilterRules.Rule.Validation
import FilterRules.Text.Basic
import FilterRules.Text.Quoted
import FilterRules.Text.Word
import FilterRules.Proofs.Filter.Pattern
import FilterRules.Proofs.Rule.Shape
import FilterRules.Proofs.Rule.Structure
import FilterRules.Proofs.Rule.Verdict
import FilterRules.Proofs.Filter.Lowering
import FilterRules.Proofs.Filter.Meaning
import FilterRules.Proofs.Rule.Evaluation
import FilterRules.Proofs.Matching
import FilterRules.Proofs.Binary64.Decimal
import FilterRules.Proofs.Rule.RoundTrip
import FilterRules.Proofs.Binary64.Arithmetic
import FilterRules.Proofs.Decimal.Digits
import FilterRules.Proofs.Json.Numeral
import FilterRules.Proofs.Decimal.Notation
import FilterRules.Proofs.Json.RoundTrip
import FilterRules.Proofs.Rule.Text
import FilterRules.Proofs.Rule.Reading
import FilterRules.Proofs.Filter.Origin
import FilterRules.Proofs.Filter.Document
import FilterRules.Proofs.Calendar.Date
import FilterRules.Proofs.Calendar.Writing
import FilterRules.Proofs.Filter.Rendering
import FilterRules.Proofs.Filter.Dates
import FilterRules.Proofs.Json.Scanning
import FilterRules.Proofs.Json.Skip
import FilterRules.Proofs.Nullness
import FilterRules.Proofs.Payload
import FilterRules.Proofs.Filter.Literal
import FilterRules.Proofs.Rule.Asking
import FilterRules.Proofs.Calendar.Order
import FilterRules.Proofs.Calendar.Spelling
import FilterRules.Proofs.Chronology
import FilterRules.Proofs.Duality
import FilterRules.Proofs.Rule.Canonical
import FilterRules.Proofs.Binary64.Order
import FilterRules.Proofs.Record.Order
import FilterRules.Proofs.Record.Integers
import FilterRules.Proofs.Rewriting
import FilterRules.Proofs.Record.Path
import FilterRules.Proofs.Membership
import FilterRules.Proofs.Limits
import FilterRules.Proofs.Filter.Depth
import FilterRules.Proofs.Visits
import FilterRules.Proofs.Rule.Log
