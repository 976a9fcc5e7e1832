import EntityGate.Config.Deployment
import EntityGate.Document.Format
import EntityGate.Gate.Description
import EntityGate.Query.Written
import EntityGate.Service.Basic
import EntityGate.Session.Journal
import EntityGate.Proofs.Gate.Clearance
import EntityGate.Proofs.Json.Fields
import EntityGate.Proofs.Store.Comparison
import EntityGate.Proofs.Store.Keys
import EntityGate.Proofs.Data.Entries
import EntityGate.Proofs.Data.Sorted
import EntityGate.Proofs.Config.Reading
import EntityGate.Proofs.Config.Overlays
import EntityGate.Proofs.Config.RoundTrip
import EntityGate.Proofs.Gate.Mutation
import EntityGate.Proofs.Request.Filters
import EntityGate.Proofs.Request.Acceptance
import EntityGate.Proofs.Validation.RuleMap
import EntityGate.Proofs.Cache.Index
import EntityGate.Proofs.Gate.Versions
import EntityGate.Proofs.Gate.Declared
import EntityGate.Proofs.Gate.Narrowing
import EntityGate.Proofs.Gate.Registry
import EntityGate.Proofs.Listing.Fingerprint
import EntityGate.Proofs.Listing.Scope
import EntityGate.Proofs.Listing.Declared
import EntityGate.Proofs.Listing.Columns
import EntityGate.Proofs.Listing.Freshness
import EntityGate.Proofs.Text.Base64
import EntityGate.Proofs.Json.Tokens
import EntityGate.Proofs.Json.Values
import EntityGate.Proofs.Paging.Token
import EntityGate.Proofs.Paging.Columns
import EntityGate.Proofs.Store.Ordering
import EntityGate.Proofs.Paging.Position
import EntityGate.Proofs.Paging.Visit
import EntityGate.Proofs.Paging.Walk
import EntityGate.Proofs.Paging.Return
import EntityGate.Proofs.Text.Blank
import EntityGate.Proofs.Sql.Spelling
import EntityGate.Proofs.Sql.Values
import EntityGate.Proofs.Sql.Placeholders
import EntityGate.Proofs.Sql.Reading
import EntityGate.Proofs.Sql.Conditions
import EntityGate.Proofs.Sql.Names
import EntityGate.Proofs.Service.Agreement
import EntityGate.Proofs.Cache.Registrations
import EntityGate.Proofs.Config.TakenNames
import EntityGate.Proofs.Gate.Changes
import EntityGate.Proofs.Gate.Changelog
import EntityGate.Proofs.Number.Integers
import EntityGate.Proofs.Store.Numbering
import EntityGate.Proofs.Store.Kinds
import EntityGate.Proofs.Paging.Nulls
import EntityGate.Proofs.Paging.Record
import EntityGate.Proofs.Paging.Partition
import EntityGate.Proofs.Paging.PastEnd
import EntityGate.Proofs.Validation.Verdict
import EntityGate.Proofs.Validation.Typing
import EntityGate.Proofs.Validation.Exactness
import EntityGate.Proofs.Validation.Aliases
import EntityGate.Proofs.Request.Shapes
import EntityGate.Proofs.Request.Encounters
import EntityGate.Proofs.Json.Visible
import EntityGate.Proofs.Request.Lists
import EntityGate.Proofs.Pattern.Spans
import EntityGate.Proofs.Store.Like
import EntityGate.Proofs.Store.LikeExpression
import EntityGate.Proofs.Store.Compound
import EntityGate.Proofs.Gate.Snapshots
import EntityGate.Proofs.Gate.WellNamed
import EntityGate.Proofs.Gate.Validity
import EntityGate.Proofs.Service.PickedActions
import EntityGate.Proofs.Gate.OperatorChanges
import EntityGate.Proofs.Json.DistinctKeys
import EntityGate.Proofs.Document.Emptiness
import EntityGate.Proofs.Document.Discovery
import EntityGate.Proofs.Document.Components
import EntityGate.Proofs.Request.QueryFilters
import EntityGate.Proofs.Cache.OneMap
import EntityGate.Proofs.Request.Brackets
import EntityGate.Proofs.Listing.KeyOrder
import EntityGate.Proofs.Validation.RuleEdits
