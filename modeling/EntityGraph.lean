import EntityGraph.Annotation.Basic
import EntityGraph.Annotation.Calls
import EntityGraph.Annotation.Options
import EntityGraph.Annotation.Struct
import EntityGraph.Annotation.Types
import EntityGraph.ByName
import EntityGraph.Cache.Memo
import EntityGraph.Cache.Shard
import EntityGraph.Cache.Sharded
import EntityGraph.Catalog
import EntityGraph.Column.Codec
import EntityGraph.Column.Type
import EntityGraph.Column.Uuid
import EntityGraph.Context.Basic
import EntityGraph.Context.History
import EntityGraph.Entity
import EntityGraph.Error
import EntityGraph.Event
import EntityGraph.Failure
import EntityGraph.Key
import EntityGraph.Load.Batch
import EntityGraph.Load.Eager
import EntityGraph.Load.KeyIndex
import EntityGraph.Load.Level
import EntityGraph.Load.Path
import EntityGraph.Load.Plan
import EntityGraph.Load.Stage
import EntityGraph.Number.Binary
import EntityGraph.Number.Decimal
import EntityGraph.Number.Shortest
import EntityGraph.Proofs.Annotation.Items
import EntityGraph.Proofs.Annotation.Naming
import EntityGraph.Proofs.Annotation.Registering
import EntityGraph.Proofs.Annotation.Relations
import EntityGraph.Proofs.Cache.Faultless
import EntityGraph.Proofs.Cache.Linking
import EntityGraph.Proofs.Cache.Programs
import EntityGraph.Proofs.Cache.Recency
import EntityGraph.Proofs.Cache.Refinement
import EntityGraph.Proofs.Cache.Slab
import EntityGraph.Proofs.Catalog.Answers
import EntityGraph.Proofs.Column.Agreement
import EntityGraph.Proofs.Column.Keys
import EntityGraph.Proofs.Column.Lossless
import EntityGraph.Proofs.Column.Uuid
import EntityGraph.Proofs.Context.Earliest
import EntityGraph.Proofs.Context.Families
import EntityGraph.Proofs.Lists
import EntityGraph.Proofs.Load.Alone
import EntityGraph.Proofs.Load.Atomic
import EntityGraph.Proofs.Load.Bound
import EntityGraph.Proofs.Load.Carrying
import EntityGraph.Proofs.Load.Forest
import EntityGraph.Proofs.Load.Indexing
import EntityGraph.Proofs.Load.Integers
import EntityGraph.Proofs.Load.Keeping
import EntityGraph.Proofs.Load.Keyed
import EntityGraph.Proofs.Load.Late
import EntityGraph.Proofs.Load.Levels
import EntityGraph.Proofs.Load.Linked
import EntityGraph.Proofs.Load.Matching
import EntityGraph.Proofs.Load.Merging
import EntityGraph.Proofs.Load.Options
import EntityGraph.Proofs.Load.Ordering
import EntityGraph.Proofs.Load.Owned
import EntityGraph.Proofs.Load.Partition
import EntityGraph.Proofs.Load.Paths
import EntityGraph.Proofs.Load.Planning
import EntityGraph.Proofs.Load.Reaching
import EntityGraph.Proofs.Load.Reloading
import EntityGraph.Proofs.Load.Replanning
import EntityGraph.Proofs.Load.Replaying
import EntityGraph.Proofs.Load.Retaining
import EntityGraph.Proofs.Load.Serving
import EntityGraph.Proofs.Load.Siblings
import EntityGraph.Proofs.Load.Spelling
import EntityGraph.Proofs.Load.Spending
import EntityGraph.Proofs.Load.Steady
import EntityGraph.Proofs.Load.Unmatched
import EntityGraph.Proofs.Load.Zeros
import EntityGraph.Proofs.Number.Numerals
import EntityGraph.Proofs.Query.Names
import EntityGraph.Proofs.Query.Phases
import EntityGraph.Proofs.Query.Terminals
import EntityGraph.Proofs.Relation.Describing
import EntityGraph.Proofs.Relation.Inverse
import EntityGraph.Proofs.Run
import EntityGraph.Proofs.Schema.Columns
import EntityGraph.Proofs.Schema.Embedding
import EntityGraph.Proofs.Schema.Flattening
import EntityGraph.Proofs.Schema.Scanning
import EntityGraph.Proofs.Sql.Changes
import EntityGraph.Proofs.Sql.Condition
import EntityGraph.Proofs.Sql.Engine
import EntityGraph.Proofs.Sql.Grammar
import EntityGraph.Proofs.Sql.Identifier
import EntityGraph.Proofs.Sql.Like
import EntityGraph.Proofs.Sql.Literal
import EntityGraph.Proofs.Sql.Placeholders
import EntityGraph.Proofs.Sql.Reading
import EntityGraph.Proofs.Sql.Safety
import EntityGraph.Proofs.Sql.Selection
import EntityGraph.Proofs.Sql.Truth
import EntityGraph.Proofs.Sql.Where
import EntityGraph.Proofs.Sql.Words
import EntityGraph.Proofs.Text.Pattern
import EntityGraph.Proofs.Text.Utf8
import EntityGraph.Proofs.Time.Reading
import EntityGraph.Proofs.Time.Texts
import EntityGraph.Query.Basic
import EntityGraph.Query.Diagnostic
import EntityGraph.Relation.Describe
import EntityGraph.Relation.Descriptor
import EntityGraph.Relation.Kind
import EntityGraph.Schema.Basic
import EntityGraph.Schema.Registration
import EntityGraph.Schema.Registry
import EntityGraph.Session.Basic
import EntityGraph.Session.Constant
import EntityGraph.Session.Playback
import EntityGraph.Sql.Filter
import EntityGraph.Sql.Identifier
import EntityGraph.Sql.Scope
import EntityGraph.Sql.Statement
import EntityGraph.Sql.Value
import EntityGraph.Text.Blank
import EntityGraph.Text.Casing
import EntityGraph.Text.Letter
import EntityGraph.Text.Pattern
import EntityGraph.Text.Quoted
import EntityGraph.Text.Shown
import EntityGraph.Text.Utf8
import EntityGraph.Time.Calendar
import EntityGraph.Time.Format
import EntityGraph.Time.Library
import EntityGraph.World
