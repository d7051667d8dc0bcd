import RelationalMapper.Bulk.Delete
import RelationalMapper.Bulk.Insert
import RelationalMapper.Bulk.Update
import RelationalMapper.Cache
import RelationalMapper.Channel.Engine
import RelationalMapper.Channel.Keys
import RelationalMapper.Channel.Opening
import RelationalMapper.Channel.Retry
import RelationalMapper.Channel.Statement
import RelationalMapper.Channel.Transaction
import RelationalMapper.Dialect.Page
import RelationalMapper.Dialect.Schema
import RelationalMapper.Dialect.Write
import RelationalMapper.Mapping.Resolution
import RelationalMapper.Options
import RelationalMapper.Query.Compile
import RelationalMapper.Query.Run
import RelationalMapper.Row
import RelationalMapper.Session
import RelationalMapper.Value.Binding
import RelationalMapper.Value.Conversion
import RelationalMapper.Proofs.Sql.Format
import RelationalMapper.Proofs.Query.Reached
import RelationalMapper.Proofs.Query.Statement
import RelationalMapper.Proofs.Query.Alignment
import RelationalMapper.Proofs.Sql.Words
import RelationalMapper.Proofs.Dialect.Written
import RelationalMapper.Proofs.Mapping.Resolved
import RelationalMapper.Proofs.Channel.Calls
import RelationalMapper.Proofs.Channel.Ledger
import RelationalMapper.Proofs.Session.Durability
import RelationalMapper.Proofs.Channel.Outcome
import RelationalMapper.Proofs.Channel.Keys
import RelationalMapper.Proofs.Bulk.Insertion
import RelationalMapper.Proofs.Bulk.Chunk
import RelationalMapper.Proofs.Bulk.Partition
import RelationalMapper.Proofs.Channel.Growth
import RelationalMapper.Proofs.Bulk.Calls
import RelationalMapper.Proofs.Session.Operation
import RelationalMapper.Proofs.Session.Block
import RelationalMapper.Proofs.Bulk.GeneratedKeys
import RelationalMapper.Proofs.Bulk.Growth
import RelationalMapper.Proofs.Sql.Deletion
import RelationalMapper.Proofs.Dialect.Deletion
import RelationalMapper.Proofs.Bulk.Deletion
import RelationalMapper.Proofs.Query.Guard
import RelationalMapper.Proofs.Query.SingleUse
import RelationalMapper.Proofs.Sql.Combination
import RelationalMapper.Proofs.Query.Words
import RelationalMapper.Proofs.Query.Coverage
import RelationalMapper.Proofs.Sql.Interpolation
import RelationalMapper.Proofs.Sql.Protection
import RelationalMapper.Proofs.Value.Restored
import RelationalMapper.Proofs.Session.Regained
import RelationalMapper.Proofs.Session.Singleton
import RelationalMapper.Proofs.Mapping.Ignored
import RelationalMapper.Proofs.Bulk.Validation
import RelationalMapper.Proofs.Bulk.KeyParameters
import RelationalMapper.Proofs.Bulk.Interrupted
import RelationalMapper.Proofs.Bulk.BatchedUpdate
import RelationalMapper.Proofs.Channel.Use
import RelationalMapper.Proofs.Channel.Exchange
import RelationalMapper.Proofs.Channel.Conduct
import RelationalMapper.Proofs.Session.Cursors
import RelationalMapper.Proofs.Session.Settlement
import RelationalMapper.Proofs.Session.Undone
import RelationalMapper.Proofs.Session.Surfaced
import RelationalMapper.Proofs.Query.Asked
import RelationalMapper.Proofs.Query.History
import RelationalMapper.Proofs.Query.Qualifier
import RelationalMapper.Proofs.Query.Clauses
import RelationalMapper.Proofs.Query.Scoping
import RelationalMapper.Proofs.Query.Joined
import RelationalMapper.Proofs.Query.Qualified
import RelationalMapper.Proofs.Sql.Formula
import RelationalMapper.Proofs.Query.Script
import RelationalMapper.Proofs.Query.Connected
import RelationalMapper.Proofs.Query.Pieces
import RelationalMapper.Proofs.Query.Stated
import RelationalMapper.Proofs.Dialect.Page
import RelationalMapper.Proofs.Mapping.Definitions
import RelationalMapper.Proofs.Query.Missing
import RelationalMapper.Proofs.Text.Lowered
import RelationalMapper.Proofs.Query.Ordered
import RelationalMapper.Proofs.Mapping.Marked
import RelationalMapper.Proofs.Mapping.Spelling
import RelationalMapper.Proofs.Session.Nesting
import RelationalMapper.Proofs.Mapping.Inverse
import RelationalMapper.Proofs.Labels
import RelationalMapper.Proofs.Mapping.Registration
import RelationalMapper.Proofs.Session.Lookup
import RelationalMapper.Proofs.Columnwise
import RelationalMapper.Proofs.Channel.Names
import RelationalMapper.Proofs.Session.Accepted
import RelationalMapper.Proofs.Value.Declared
import RelationalMapper.Proofs.Value.Numeric
import RelationalMapper.Proofs.Value.Bindable
import RelationalMapper.Proofs.Query.Naming
import RelationalMapper.Proofs.Dialect.ColumnType
import RelationalMapper.Proofs.Sql.Identifier
import RelationalMapper.Proofs.Channel.Retry
import RelationalMapper.Proofs.Channel.Ordinals
