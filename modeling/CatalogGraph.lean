import CatalogGraph.Cache.Database
import CatalogGraph.Cache.Namespace
import CatalogGraph.Cache.Operation
import CatalogGraph.Cache.Path
import CatalogGraph.Cache.Saved
import CatalogGraph.Cache.Store
import CatalogGraph.CommandLine.Invocation
import CatalogGraph.CommandLine.Reach
import CatalogGraph.CommandLine.Run
import CatalogGraph.CommandLine.Switch
import CatalogGraph.CommandLine.Work
import CatalogGraph.Dictionary
import CatalogGraph.Discovery.Column
import CatalogGraph.Discovery.Fixture
import CatalogGraph.Discovery.Overlap
import CatalogGraph.Discovery.Session
import CatalogGraph.Discovery.Settings
import CatalogGraph.Discovery.Source
import CatalogGraph.Discovery.Walker
import CatalogGraph.Event
import CatalogGraph.Files.Tree
import CatalogGraph.Hash.Sha256
import CatalogGraph.Joins.Candidate
import CatalogGraph.Joins.Detection
import CatalogGraph.Joins.Names
import CatalogGraph.Joins.Plural
import CatalogGraph.Json.Codec
import CatalogGraph.Json.Decode
import CatalogGraph.Json.Number
import CatalogGraph.Json.Printer
import CatalogGraph.Json.Text
import CatalogGraph.Json.Value
import CatalogGraph.Main
import CatalogGraph.Name
import CatalogGraph.Number.Double
import CatalogGraph.Number.Interval
import CatalogGraph.Number.Layout
import CatalogGraph.Number.Shortest
import CatalogGraph.Proofs.Assembly
import CatalogGraph.Proofs.BuiltSchema
import CatalogGraph.Proofs.CacheKeys
import CatalogGraph.Proofs.ClientRuns
import CatalogGraph.Proofs.Correlation
import CatalogGraph.Proofs.Dictionary
import CatalogGraph.Proofs.Digits
import CatalogGraph.Proofs.Exposure
import CatalogGraph.Proofs.NameCodec
import CatalogGraph.Proofs.Outcomes
import CatalogGraph.Proofs.Registration
import CatalogGraph.Proofs.SqlLexer
import CatalogGraph.Proofs.TableTypes
import CatalogGraph.Proofs.Translation
import CatalogGraph.Proofs.Views
import CatalogGraph.Proofs.Walk
import CatalogGraph.Query.Filter
import CatalogGraph.Query.Operator
import CatalogGraph.Query.Planning
import CatalogGraph.Query.Service
import CatalogGraph.Query.Translation
import CatalogGraph.Schema.Assembly
import CatalogGraph.Schema.Document
import CatalogGraph.Schema.Generated
import CatalogGraph.Schema.NativeType
import CatalogGraph.Schema.OutputType
import CatalogGraph.Schema.Registry
import CatalogGraph.Settings.Basic
import CatalogGraph.Settings.Environment
import CatalogGraph.Settings.Loading
import CatalogGraph.Sql.Token
import CatalogGraph.Text.Alphanumeric
import CatalogGraph.Text.Blank
import CatalogGraph.Text.Case
import CatalogGraph.Text.CaseTable
import CatalogGraph.Text.Digits
import CatalogGraph.Text.Printable
import CatalogGraph.Text.Quoted
import CatalogGraph.Text.Ranges
import CatalogGraph.Text.Word
import CatalogGraph.Toml.Document
import CatalogGraph.Toml.Lexical
import CatalogGraph.Toml.Scalar
import CatalogGraph.Toml.Table
import CatalogGraph.Worker.Client
import CatalogGraph.Worker.Conversation
import CatalogGraph.Worker.Error
import CatalogGraph.Worker.Exchange
import CatalogGraph.Worker.Link
import CatalogGraph.Worker.Process
import CatalogGraph.Worker.Program
import CatalogGraph.Worker.Reply
import CatalogGraph.Proofs.Namespaces
import CatalogGraph.Proofs.Handles
import CatalogGraph.Proofs.JsonText
import CatalogGraph.Proofs.Codecs
import CatalogGraph.Proofs.Invalidation
import CatalogGraph.Proofs.Lookups
import CatalogGraph.Proofs.Memoisation
import CatalogGraph.Proofs.Spellings
import CatalogGraph.Proofs.Stranding
import CatalogGraph.Proofs.SmallLetters
import CatalogGraph.Proofs.JoinNames
import CatalogGraph.Proofs.CandidateOrder
import CatalogGraph.Proofs.JoinDetection
import CatalogGraph.Proofs.WellFormed
import CatalogGraph.Proofs.RowFields
import CatalogGraph.Proofs.Sorted
import CatalogGraph.Proofs.Trails
import CatalogGraph.Proofs.AssemblyTrails
import CatalogGraph.Proofs.Admission
import CatalogGraph.Proofs.Rebuilding
import CatalogGraph.Proofs.SharedModes
import CatalogGraph.Proofs.DocumentLexer
import CatalogGraph.Proofs.DocumentReader
import CatalogGraph.Proofs.DocumentPrinter
import CatalogGraph.Proofs.DocumentContents
import CatalogGraph.Proofs.DocumentFaithful
import CatalogGraph.Proofs.DocumentCoherence
import CatalogGraph.Proofs.WorkerCalls
import CatalogGraph.Proofs.QueryRuns
import CatalogGraph.Proofs.SavedLists
import CatalogGraph.Proofs.FaultOrder
import CatalogGraph.Proofs.DiscoveredNames
import CatalogGraph.Proofs.ExactInvalidation
import CatalogGraph.Proofs.Overlap
import CatalogGraph.Proofs.FixtureTrees
import CatalogGraph.Proofs.CatalogColumns
import CatalogGraph.Proofs.Templates
import CatalogGraph.Proofs.ResultRows
import CatalogGraph.Proofs.CompactText
import CatalogGraph.Proofs.Sizes
import CatalogGraph.Proofs.NativeTypes
import CatalogGraph.Proofs.TypeParameters
import CatalogGraph.Proofs.Descriptions
import CatalogGraph.Proofs.ListingOrder
import CatalogGraph.Proofs.Connections
