import EntitySession.Act
import EntitySession.Action
import EntitySession.Association
import EntitySession.Association.Collection
import EntitySession.Association.Reference
import EntitySession.Binary64
import EntitySession.Binary64.Layout
import EntitySession.Binary64.Reading
import EntitySession.Binary64.Shortest
import EntitySession.Choices
import EntitySession.Config
import EntitySession.Context
import EntitySession.Declaration
import EntitySession.Entity
import EntitySession.Error
import EntitySession.Factory
import EntitySession.Gateway
import EntitySession.Heap
import EntitySession.Hydration
import EntitySession.Json.Document
import EntitySession.Key
import EntitySession.Mapping
import EntitySession.Metadata
import EntitySession.Metadata.Registry
import EntitySession.Metadata.Resolve
import EntitySession.Rehearsal.Connection
import EntitySession.Rehearsal.Event
import EntitySession.Rehearsal.Labels
import EntitySession.Rehearsal.Scene
import EntitySession.Rehearsal.Stage
import EntitySession.Row
import EntitySession.Session
import EntitySession.SqlType
import EntitySession.Sqlite.Cell
import EntitySession.Sqlite.Command
import EntitySession.Sqlite.Command.Reading
import EntitySession.Sqlite.Connection
import EntitySession.Sqlite.Contents
import EntitySession.Sqlite.Engine
import EntitySession.Sqlite.Failure
import EntitySession.Sqlite.Location
import EntitySession.Sqlite.Opening
import EntitySession.Sqlite.Options
import EntitySession.Sqlite.Store
import EntitySession.Sqlite.Token
import EntitySession.Sqlite.Uri
import EntitySession.Statement
import EntitySession.Surroundings
import EntitySession.Text.Folding
import EntitySession.Text.Invisible
import EntitySession.Text.Quoted
import EntitySession.Transaction
import EntitySession.Value
import EntitySession.Value.Carrier
import EntitySession.Value.Cast
import EntitySession.Value.Document
import EntitySession.World
import EntitySession.Proofs.Acts
import EntitySession.Proofs.Results
import EntitySession.Proofs.Metadata
import EntitySession.Proofs.Heaps
import EntitySession.Proofs.Runs
import EntitySession.Proofs.Sites
import EntitySession.Proofs.Inserting
import EntitySession.Proofs.KeyMaps
import EntitySession.Proofs.Sessions
import EntitySession.Proofs.Tracking
import EntitySession.Proofs.Casts
import EntitySession.Proofs.Calls
import EntitySession.Proofs.Exchanges
import EntitySession.Proofs.Queue
import EntitySession.Proofs.QueueHistories
import EntitySession.Proofs.Writes
import EntitySession.Proofs.Dirtiness
import EntitySession.Proofs.Flush
import EntitySession.Proofs.Provenance
import EntitySession.Proofs.Persistence
import EntitySession.Proofs.Accessors
import EntitySession.Proofs.Suppliers
import EntitySession.Proofs.Worlds
import EntitySession.Proofs.IdentityMap
import EntitySession.Proofs.ForeignKeys
import EntitySession.Proofs.Clean
import EntitySession.Proofs.Reading
import EntitySession.Proofs.Visibility
import EntitySession.Proofs.PendingDeletes
import EntitySession.Proofs.Utterances
import EntitySession.Proofs.Refusals
import EntitySession.Proofs.Closing
import EntitySession.Proofs.RowWrites
import EntitySession.Proofs.TableStores
import EntitySession.Proofs.WriteBehind
import EntitySession.Proofs.Storage
import EntitySession.Proofs.Holdings
import EntitySession.Proofs.Connections
import EntitySession.Proofs.Demands
import EntitySession.Proofs.AutoCommit
import EntitySession.Proofs.Transactions
import EntitySession.Proofs.TransactionOutcomes
import EntitySession.Proofs.ActiveTransactions
import EntitySession.Proofs.Resolution
import EntitySession.Proofs.Counterparts
import EntitySession.Proofs.ContextHistories
import EntitySession.Proofs.Bindings
import EntitySession.Proofs.Requests
import EntitySession.Proofs.Templates
import EntitySession.Proofs.Wordings
import EntitySession.Proofs.Rows
import EntitySession.Proofs.Faithfulness
import EntitySession.Proofs.Restoring
import EntitySession.Proofs.Exactness
import EntitySession.Proofs.ConnectionFlags
import EntitySession.Proofs.LinkedSides
import EntitySession.Proofs.PrivateLists
import EntitySession.Proofs.Leftovers
import EntitySession.Proofs.Baselines
import EntitySession.Proofs.Interruptions
import EntitySession.Proofs.SameColumns
import EntitySession.Proofs.AllOrNothing
import EntitySession.Proofs.RowAddresses
import EntitySession.Proofs.ListedColumns
import EntitySession.Proofs.AcceptedMappings
import EntitySession.Proofs.ColumnOrder
import EntitySession.Proofs.LazyReferences
import EntitySession.Proofs.Counters
import EntitySession.Proofs.RowCounts
import EntitySession.Proofs.NormalForms
import EntitySession.Proofs.Conversions
import EntitySession.Proofs.KeyEquality
import EntitySession.Proofs.Rearrangements
