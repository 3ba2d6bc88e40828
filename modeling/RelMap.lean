import RelMap.Logging
import RelMap.Scenario
import RelMap.Value.Constant
import RelMap.Proofs.Session.Transition
import RelMap.Proofs.Session.History
import RelMap.Proofs.Session.StateMachine
import RelMap.Proofs.Session.Scope
import RelMap.Proofs.Session.Lifecycle
import RelMap.Proofs.Query.Mark
import RelMap.Proofs.Query.Clause
import RelMap.Proofs.Query.Edit
import RelMap.Proofs.Query.Regular
import RelMap.Proofs.Query.Given
import RelMap.Proofs.Query.Alignment
import RelMap.Proofs.Model.Declared
import RelMap.Proofs.Model.Composition
import RelMap.Proofs.Registry.History
import RelMap.Proofs.Model.Mapped
import RelMap.Proofs.Query.Written
import RelMap.Proofs.Persistence.Writing
import RelMap.Proofs.Session.Execution
import RelMap.Proofs.Session.RowCount
import RelMap.Proofs.Session.Answer
import RelMap.Proofs.Persistence.Saving
import RelMap.Proofs.Persistence.TableCreation
import RelMap.Proofs.Text.Numeral
import RelMap.Proofs.Calendar.Written
import RelMap.Proofs.Number.Written
import RelMap.Proofs.Persistence.RoundTrip
import RelMap.Proofs.Query.Erasure
import RelMap.Proofs.Query.Safety
import RelMap.Proofs.Query.Reader
import RelMap.Proofs.Query.Reading
import RelMap.Proofs.Query.Target
import RelMap.Proofs.Query.Known
import RelMap.Proofs.Persistence.OwnColumns
import RelMap.Proofs.Persistence.Bound
import RelMap.Proofs.Schema.Reading
import RelMap.Proofs.Settings.Checked
import RelMap.Proofs.Settings.Override
import RelMap.Proofs.Session.Secrecy
import RelMap.Proofs.Query.Portability
import RelMap.Proofs.Query.Label
import RelMap.Proofs.Query.Admission
import RelMap.Proofs.Registry.Collecting
import RelMap.Proofs.Model.Ancestry
import RelMap.Proofs.Model.Refusal
import RelMap.Proofs.TypeHint.Flat
import RelMap.Proofs.TypeHint.Inference
import RelMap.Proofs.TypeHint.Written
import RelMap.Proofs.TypeHint.Searched
import RelMap.Proofs.TypeHint.Optional
import RelMap.Proofs.TypeHint.Agreement
import RelMap.Proofs.Query.Interleaving
import RelMap.Proofs.Text.Spelling
import RelMap.Proofs.Query.Shape
import RelMap.Proofs.Query.Delivery
import RelMap.Proofs.Persistence.RowNumber
import RelMap.Proofs.Registry.Lookup
import RelMap.Proofs.Query.Identifier
import RelMap.Proofs.Model.TableName
import RelMap.Proofs.Schema.Folding
import RelMap.Proofs.Text.Trimming
import RelMap.Proofs.Schema.ColumnType
import RelMap.Proofs.Model.KeyField
