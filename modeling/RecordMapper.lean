import RecordMapper.Engine.Pool
import RecordMapper.Function.Catalogue
import RecordMapper.Model.DualMethod
import RecordMapper.Operation.Lookup
import RecordMapper.Operation.Write
import RecordMapper.Profile.Connect
import RecordMapper.Proofs.Connection.Commitment
import RecordMapper.Proofs.Connection.Protocol
import RecordMapper.Proofs.Engine.Lease
import RecordMapper.Proofs.Except
import RecordMapper.Proofs.Json.Document
import RecordMapper.Proofs.Operation.Address
import RecordMapper.Proofs.Operation.Binding
import RecordMapper.Proofs.Operation.Filtering
import RecordMapper.Proofs.Operation.Hydration
import RecordMapper.Proofs.Operation.Inserting
import RecordMapper.Proofs.Operation.Joining
import RecordMapper.Proofs.Operation.Limiting
import RecordMapper.Proofs.Operation.Populating
import RecordMapper.Proofs.Operation.Recognition
import RecordMapper.Proofs.Operation.Saving
import RecordMapper.Proofs.Operation.Scope
import RecordMapper.Proofs.Operation.Selection
import RecordMapper.Proofs.Operation.Storing
import RecordMapper.Proofs.Operation.Traffic
import RecordMapper.Proofs.Profile.Coverage
import RecordMapper.Proofs.Record.Modes
import RecordMapper.Proofs.Record.Origin
import RecordMapper.Proofs.Record.Valid
import RecordMapper.Proofs.Relation.Payload
import RecordMapper.Proofs.Schema.Columns
import RecordMapper.Proofs.Schema.Report
import RecordMapper.Proofs.Sql.Alignment
import RecordMapper.Proofs.Sql.Command
import RecordMapper.Proofs.Sql.Correspondence
import RecordMapper.Proofs.Sql.Cut
import RecordMapper.Proofs.Sql.Direct
import RecordMapper.Proofs.Sql.Insertion
import RecordMapper.Proofs.Sql.Nulls
import RecordMapper.Proofs.Sql.Range
import RecordMapper.Proofs.Sql.Rereading
import RecordMapper.Proofs.Sql.Shape
import RecordMapper.Proofs.Validation.Composition
import RecordMapper.Proofs.Validation.Heal
import RecordMapper.Proofs.Validation.Rule
import RecordMapper.Proofs.Validation.SinglePass
import RecordMapper.Schema.Declaration
import RecordMapper.Session.Basic
import RecordMapper.Validation.Constructor
import RecordMapper.Value.Literal
import RecordMapper.Proofs.Operation.Targets
import RecordMapper.Proofs.Value.Failure
import RecordMapper.Proofs.Operation.Resolution
import RecordMapper.Proofs.Text.Trim
import RecordMapper.Proofs.Profile.Lock
import RecordMapper.Proofs.Text.Utf8
import RecordMapper.Proofs.Text.Percent
import RecordMapper.Proofs.Text.Pieces
import RecordMapper.Proofs.Profile.Password
import RecordMapper.Proofs.Declaration.Reading
import RecordMapper.Proofs.Schema.Acceptance
import RecordMapper.Proofs.Number.Place
import RecordMapper.Proofs.Validation.Bounds
