import CatalogEntities.Catalog
import CatalogEntities.Catalog.Memory
import CatalogEntities.ColumnType
import CatalogEntities.CommandLine.Execution
import CatalogEntities.CommandLine.Grammar
import CatalogEntities.CommandLine.Invocation
import CatalogEntities.CommandLine.Printed
import CatalogEntities.Database.Endpoint
import CatalogEntities.Database.Fault
import CatalogEntities.Database.Query
import CatalogEntities.Database.Server
import CatalogEntities.Database.Session
import CatalogEntities.Decimal.Basic
import CatalogEntities.Decimal.Double
import CatalogEntities.Decimal.Layout
import CatalogEntities.Decimal.Shortest
import CatalogEntities.DefaultValue
import CatalogEntities.Dictionary
import CatalogEntities.DotEnv
import CatalogEntities.DotEnv.Line
import CatalogEntities.DotEnv.Value
import CatalogEntities.Entity
import CatalogEntities.Entity.Source
import CatalogEntities.Failure
import CatalogEntities.FileSystem
import CatalogEntities.Instant
import CatalogEntities.Json
import CatalogEntities.Json.Decode
import CatalogEntities.Json.Number
import CatalogEntities.Json.Reader
import CatalogEntities.Json.Writer
import CatalogEntities.Log
import CatalogEntities.Main
import CatalogEntities.Naming
import CatalogEntities.Path
import CatalogEntities.Relation
import CatalogEntities.Report
import CatalogEntities.Report.Json
import CatalogEntities.Run
import CatalogEntities.Run.Claim
import CatalogEntities.Run.Event
import CatalogEntities.Run.Job
import CatalogEntities.Settings
import CatalogEntities.Settings.Environment
import CatalogEntities.Settings.Fault
import CatalogEntities.Settings.Json
import CatalogEntities.Settings.Validity
import CatalogEntities.Settings.Yaml
import CatalogEntities.Shape
import CatalogEntities.SystemFault
import CatalogEntities.Table
import CatalogEntities.Table.Json
import CatalogEntities.Text.Alphanumeric
import CatalogEntities.Text.CaseContext
import CatalogEntities.Text.CaseTable
import CatalogEntities.Text.Casing
import CatalogEntities.Text.Character
import CatalogEntities.Text.Quoted
import CatalogEntities.Text.Search
import CatalogEntities.Text.Shown
import CatalogEntities.TlsMode
import CatalogEntities.Yaml.Cursor
import CatalogEntities.Yaml.Decode
import CatalogEntities.Yaml.Fault
import CatalogEntities.Yaml.Node
import CatalogEntities.Yaml.Node.Reader
import CatalogEntities.Yaml.Scalar
import CatalogEntities.Yaml.Token
import CatalogEntities.Yaml.Token.Block
import CatalogEntities.Yaml.Token.Flow
import CatalogEntities.Yaml.Token.Lexer
import CatalogEntities.Yaml.Token.Mark
import CatalogEntities.Proofs.Catalog
import CatalogEntities.Proofs.CommandLine
import CatalogEntities.Proofs.CommandLine.Connecting
import CatalogEntities.Proofs.CommandLine.Stage
import CatalogEntities.Proofs.Database.Contents
import CatalogEntities.Proofs.Database.Rows
import CatalogEntities.Proofs.Decimal
import CatalogEntities.Proofs.Decimal.Nearest
import CatalogEntities.Proofs.Decimal.Shortest
import CatalogEntities.Proofs.Decimal.Value
import CatalogEntities.Proofs.Dictionary
import CatalogEntities.Proofs.DotEnv.Assigning
import CatalogEntities.Proofs.DotEnv.Lines
import CatalogEntities.Proofs.DotEnv.Precedence
import CatalogEntities.Proofs.Entity.BoundNames
import CatalogEntities.Proofs.Entity.Defaults
import CatalogEntities.Proofs.Entity.Determined
import CatalogEntities.Proofs.Entity.Emitted
import CatalogEntities.Proofs.Entity.Fields
import CatalogEntities.Proofs.Entity.Imports
import CatalogEntities.Proofs.Entity.Indistinct
import CatalogEntities.Proofs.Entity.Keys
import CatalogEntities.Proofs.Entity.Labels
import CatalogEntities.Proofs.Entity.Layout
import CatalogEntities.Proofs.Entity.LineBreaks
import CatalogEntities.Proofs.Entity.Literals
import CatalogEntities.Proofs.Entity.NumberDefaults
import CatalogEntities.Proofs.Entity.PropertyKeys
import CatalogEntities.Proofs.Entity.Reader
import CatalogEntities.Proofs.FileSystem.Change
import CatalogEntities.Proofs.FileSystem.Directories
import CatalogEntities.Proofs.FileSystem.Lookup
import CatalogEntities.Proofs.Instant.Calendar
import CatalogEntities.Proofs.Instant.Reader
import CatalogEntities.Proofs.Json.Numbers
import CatalogEntities.Proofs.Json.Pretty
import CatalogEntities.Proofs.Json.Records
import CatalogEntities.Proofs.Json.Variants
import CatalogEntities.Proofs.Naming.Identifier
import CatalogEntities.Proofs.Naming.Underscores
import CatalogEntities.Proofs.Naming.Words
import CatalogEntities.Proofs.Path
import CatalogEntities.Proofs.Report
import CatalogEntities.Proofs.Run.Accounting
import CatalogEntities.Proofs.Run.Claim
import CatalogEntities.Proofs.Run.Delivery
import CatalogEntities.Proofs.Run.DryRun
import CatalogEntities.Proofs.Run.FailFast
import CatalogEntities.Proofs.Run.FirstOwner
import CatalogEntities.Proofs.Run.Inside
import CatalogEntities.Proofs.Run.Job
import CatalogEntities.Proofs.Run.Moment
import CatalogEntities.Proofs.Run.Published
import CatalogEntities.Proofs.Run.References
import CatalogEntities.Proofs.Run.Refinement
import CatalogEntities.Proofs.Run.Request
import CatalogEntities.Proofs.Run.Success
import CatalogEntities.Proofs.Run.Turn
import CatalogEntities.Proofs.Run.Untorn
import CatalogEntities.Proofs.Settings.Variables
import CatalogEntities.Proofs.Text.Blank
import CatalogEntities.Proofs.Text.Casing
import CatalogEntities.Proofs.Text.LineBreaks
import CatalogEntities.Proofs.Text.OneLine
import CatalogEntities.Proofs.Text.Pieces
import CatalogEntities.Proofs.Text.Reader
import CatalogEntities.Proofs.Text.Scan
import CatalogEntities.Proofs.TlsMode
