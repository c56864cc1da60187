import RecordQuery.Compilation
import RecordQuery.Document.Text
import RecordQuery.Plain
import RecordQuery.Proofs.Compilation.Absence
import RecordQuery.Proofs.Document.Invariant
import RecordQuery.Proofs.Document.Null
import RecordQuery.Proofs.Document.Reading
import RecordQuery.Proofs.Document.Texts
import RecordQuery.Table
import RecordQuery.Proofs.Compilation.Composition
import RecordQuery.Proofs.Compilation.Strictness
import RecordQuery.Proofs.Compilation.PlainRecord
import RecordQuery.Proofs.Table.Edits
import RecordQuery.Proofs.Table.Rows
import RecordQuery.Proofs.Table.Tags
import RecordQuery.Proofs.Document.Views
import RecordQuery.Proofs.Field.Nesting
import RecordQuery.Proofs.Text.Divergence
import RecordQuery.Proofs.Value.Agreement
import RecordQuery.Proofs.Document.Agreement
