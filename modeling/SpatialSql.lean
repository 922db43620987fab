import SpatialSql.Action
import SpatialSql.AllowList
import SpatialSql.Arity
import SpatialSql.Backend
import SpatialSql.Call.Basic
import SpatialSql.Call.Parse
import SpatialSql.Call.Render
import SpatialSql.Catalog.Basic
import SpatialSql.Catalog.Mysql
import SpatialSql.Catalog.Postgresql
import SpatialSql.Configuration.Basic
import SpatialSql.Configuration.Document
import SpatialSql.Configuration.Stream
import SpatialSql.Decimal.Layout
import SpatialSql.Decimal.Shortest
import SpatialSql.Definition
import SpatialSql.Error
import SpatialSql.Event
import SpatialSql.Json.Fault
import SpatialSql.Json.Lexer
import SpatialSql.Json.Number
import SpatialSql.Json.Numeral
import SpatialSql.Json.Quoted
import SpatialSql.Json.Reader
import SpatialSql.Json.Token
import SpatialSql.Name.Case
import SpatialSql.Name.Table
import SpatialSql.Proofs.ArityText
import SpatialSql.Proofs.BoundedReading
import SpatialSql.Proofs.ByteOrder
import SpatialSql.Proofs.CallFailure
import SpatialSql.Proofs.CallGrammar
import SpatialSql.Proofs.CatalogRegistry
import SpatialSql.Proofs.ClosingParentheses
import SpatialSql.Proofs.ConfigurationSpelling
import SpatialSql.Proofs.CorrectPrefix
import SpatialSql.Proofs.CursorRuns
import SpatialSql.Proofs.Deliveries
import SpatialSql.Proofs.Diagnostics
import SpatialSql.Proofs.DocumentEnd
import SpatialSql.Proofs.DocumentOrder
import SpatialSql.Proofs.DocumentScanning
import SpatialSql.Proofs.EventAccounts
import SpatialSql.Proofs.ExprNodes
import SpatialSql.Proofs.JsonSpelling
import SpatialSql.Proofs.Lockstep
import SpatialSql.Proofs.Lookahead
import SpatialSql.Proofs.LosslessLexing
import SpatialSql.Proofs.NameCase
import SpatialSql.Proofs.NameTable
import SpatialSql.Proofs.ParameterOrder
import SpatialSql.Proofs.PlatformScreening
import SpatialSql.Proofs.PlatformSet
import SpatialSql.Proofs.QueryFrame
import SpatialSql.Proofs.QueryGrammar
import SpatialSql.Proofs.QueryLog
import SpatialSql.Proofs.ReaderTermination
import SpatialSql.Proofs.RecordSpelling
import SpatialSql.Proofs.RegistryHistory
import SpatialSql.Proofs.RegistryInvariant
import SpatialSql.Proofs.RoundTrip
import SpatialSql.Proofs.Runs
import SpatialSql.Proofs.SourceIndependence
import SpatialSql.Proofs.SpacedTokens
import SpatialSql.Proofs.SqlText
import SpatialSql.Proofs.SqlWords
import SpatialSql.Proofs.StagedLoading
import SpatialSql.Proofs.Words
import SpatialSql.Proofs.WritingOrder
import SpatialSql.Query.Expr
import SpatialSql.Query.Lexer
import SpatialSql.Query.Parser
import SpatialSql.Query.Sql
import SpatialSql.Registry.Basic
import SpatialSql.Registry.Call
import SpatialSql.Registry.Catalog
import SpatialSql.Registry.Load
import SpatialSql.Text.Blank
import SpatialSql.Text.Printable
import SpatialSql.Text.Quoted
import SpatialSql.Text.Run
import SpatialSql.Token.Basic
import SpatialSql.Token.Cursor
import SpatialSql.Token.Source
import SpatialSql.Verbatim.Reader
import SpatialSql.Verbatim.Renderer
