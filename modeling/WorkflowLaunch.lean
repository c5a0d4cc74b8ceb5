import WorkflowLaunch.Attribute.Declaration
import WorkflowLaunch.Attribute.Table
import WorkflowLaunch.Attribute.ValueType
import WorkflowLaunch.Catalog.Basic
import WorkflowLaunch.Catalog.Decoding
import WorkflowLaunch.Catalog.Encoding
import WorkflowLaunch.CommandLine.Fault
import WorkflowLaunch.CommandLine.Given
import WorkflowLaunch.CommandLine.Help
import WorkflowLaunch.CommandLine.Reader
import WorkflowLaunch.CommandLine.Setting
import WorkflowLaunch.Decimal.Binary64
import WorkflowLaunch.Decimal.Notation
import WorkflowLaunch.Decimal.Shortest
import WorkflowLaunch.FileSystem.Basic
import WorkflowLaunch.FileSystem.Calls
import WorkflowLaunch.FileSystem.Change
import WorkflowLaunch.FileSystem.Walk
import WorkflowLaunch.Http.Frontend
import WorkflowLaunch.Http.Message
import WorkflowLaunch.Http.Trace
import WorkflowLaunch.Interrupt
import WorkflowLaunch.Json.Fault
import WorkflowLaunch.Json.Literal
import WorkflowLaunch.Json.Number
import WorkflowLaunch.Json.Reader
import WorkflowLaunch.Json.Skip
import WorkflowLaunch.Json.Value
import WorkflowLaunch.Launch.Composition
import WorkflowLaunch.Launch.Recording
import WorkflowLaunch.Launch.Sequence
import WorkflowLaunch.Launch.Servers
import WorkflowLaunch.Launch.Stage
import WorkflowLaunch.Launch.Words
import WorkflowLaunch.Log.Directive
import WorkflowLaunch.Log.Event
import WorkflowLaunch.Log.Filter
import WorkflowLaunch.Log.Level
import WorkflowLaunch.Log.Logger
import WorkflowLaunch.Log.Rule
import WorkflowLaunch.Main
import WorkflowLaunch.Network.Address
import WorkflowLaunch.Network.Notation
import WorkflowLaunch.Path
import WorkflowLaunch.Pattern.Basic
import WorkflowLaunch.Pattern.Bracket
import WorkflowLaunch.Pattern.CharClass
import WorkflowLaunch.Pattern.Escape
import WorkflowLaunch.Pattern.Matching
import WorkflowLaunch.Pattern.Reader
import WorkflowLaunch.Program
import WorkflowLaunch.Proofs.Attribute.Declarations
import WorkflowLaunch.Proofs.Attribute.Tables
import WorkflowLaunch.Proofs.Catalog.Codec
import WorkflowLaunch.Proofs.Catalog.Merging
import WorkflowLaunch.Proofs.FileSystem.Directories
import WorkflowLaunch.Proofs.FileSystem.Entries
import WorkflowLaunch.Proofs.FileSystem.Furnishing
import WorkflowLaunch.Proofs.FileSystem.Ways
import WorkflowLaunch.Proofs.Json.Layouts
import WorkflowLaunch.Proofs.Json.Literals
import WorkflowLaunch.Proofs.Launch.Configuration
import WorkflowLaunch.Proofs.Launch.Effects
import WorkflowLaunch.Proofs.Launch.Endings
import WorkflowLaunch.Proofs.Launch.History
import WorkflowLaunch.Proofs.Launch.Progress
import WorkflowLaunch.Proofs.Launch.Stages
import WorkflowLaunch.Proofs.Path.Steps
import WorkflowLaunch.Proofs.Request.Checking
import WorkflowLaunch.Proofs.Server.Course
import WorkflowLaunch.Proofs.Server.Entering
import WorkflowLaunch.Proofs.Server.Tenancy
import WorkflowLaunch.Proofs.Store.Contents
import WorkflowLaunch.Proofs.Store.Durability
import WorkflowLaunch.Proofs.Store.Effects
import WorkflowLaunch.Proofs.Store.Opening
import WorkflowLaunch.Proofs.Store.Saving
import WorkflowLaunch.Request.Basic
import WorkflowLaunch.Request.Plan
import WorkflowLaunch.Request.Standard
import WorkflowLaunch.Server.Basic
import WorkflowLaunch.Server.Fleet
import WorkflowLaunch.Server.Settings
import WorkflowLaunch.Store
import WorkflowLaunch.Text.Alphanumeric
import WorkflowLaunch.Text.Blank
import WorkflowLaunch.Text.Hexadecimal
import WorkflowLaunch.Text.Integer
import WorkflowLaunch.Text.Octets
import WorkflowLaunch.Text.Paragraph
import WorkflowLaunch.Text.Pieces
import WorkflowLaunch.Text.Quoted
import WorkflowLaunch.Text.Terminal
import WorkflowLaunch.Text.Unprintable
import WorkflowLaunch.Proofs.CommandLine.Items
import WorkflowLaunch.Proofs.CommandLine.Writing
import WorkflowLaunch.Proofs.Server.Deeds
import WorkflowLaunch.Proofs.Server.Hooks
import WorkflowLaunch.Proofs.Store.Steadiness
import WorkflowLaunch.Proofs.Server.Sharing
import WorkflowLaunch.Proofs.Http.Bodies
import WorkflowLaunch.Proofs.Server.Serving
import WorkflowLaunch.Proofs.Catalog.Operations
import WorkflowLaunch.Proofs.Server.Starting
import WorkflowLaunch.Proofs.Launch.Filters
import WorkflowLaunch.Proofs.Launch.Reordering
import WorkflowLaunch.Proofs.Server.Directives
import WorkflowLaunch.Proofs.Store.Answers
import WorkflowLaunch.Proofs.Launch.Persistence
import WorkflowLaunch.Proofs.Store.Neighbours
import WorkflowLaunch.Proofs.Checks
import WorkflowLaunch.Proofs.Attribute.Resolution
import WorkflowLaunch.Proofs.Request.Rules
import WorkflowLaunch.Proofs.Launch.Parsing
import WorkflowLaunch.Proofs.Server.Requirements
import WorkflowLaunch.Proofs.Store.Siblings
import WorkflowLaunch.Proofs.Server.Reporting
import WorkflowLaunch.Proofs.Catalog.Tolerance
