import Windowing.KeyMap
import Windowing.Message
import Windowing.Duration
import Windowing.Window
import Windowing.Conditions
import Windowing.Text.Utf8
import Windowing.Text.Unicode
import Windowing.Text.Quote
import Windowing.Text.Numeral
import Windowing.Decimal.Shortest
import Windowing.Template.Syntax
import Windowing.Template.Lexer
import Windowing.Template.Parser
import Windowing.Template.Value
import Windowing.Template.Format
import Windowing.Template.Escape
import Windowing.Template.Exec
import Windowing.Uuid
import Windowing.Action
import Windowing.Context
import Windowing.Metrics
import Windowing.Reactor
import Windowing.Clock
import Windowing.LogLevel
import Windowing.Failure
import Windowing.Engine
import Windowing.Text.Blank
import Windowing.Duration.Text
import Windowing.Text.Base64
import Windowing.Yaml.Token
import Windowing.Yaml.Scanner
import Windowing.Yaml.Parser
import Windowing.Yaml.Resolve
import Windowing.Yaml.Node
import Windowing.Yaml.Decode
import Windowing.Json
import Windowing.Schema
import Windowing.Config.Document
import Windowing.Config.Build
import Windowing.Flags
import Windowing.Settings
import Windowing.Files
import Windowing.Json.Read
import Windowing.Message.Wire
import Windowing.Correlator
import Windowing.Channel
import Windowing.Processes
import Windowing.Timestamp
import Windowing.Sql.Value
import Windowing.Sql.Token
import Windowing.Sql.Syntax
import Windowing.Sql.Parse.Basic
import Windowing.Sql.Parse.Query
import Windowing.Sql.Parse.Statement
import Windowing.Sql.Error
import Windowing.Sql.Database
import Windowing.Sql.Schema
import Windowing.Sql.Operators
import Windowing.Sql.Pattern
import Windowing.Sql.Printf
import Windowing.Sql.Function
import Windowing.Sql.Window
import Windowing.Sql.Scope
import Windowing.Sql.JsonValue
import Windowing.Sql.JsonRead
import Windowing.Sql.JsonPath
import Windowing.Sql.JsonCall
import Windowing.Sql.JsonEach
import Windowing.Sql.Analysis
import Windowing.Sql.DateTime
import Windowing.Sql.Call
import Windowing.Sql.Aggregate
import Windowing.Sql.WindowFunction
import Windowing.Sql.Eval
import Windowing.Sql.Settle
import Windowing.Sql.Prepare
import Windowing.Sql.Collating
import Windowing.Sql.Change
import Windowing.Sql.Define
import Windowing.Sql.Session
import Windowing.Journal
import Windowing.Journal.File
import Windowing.Journal.Retry
import Windowing.Workspace
import Windowing.Cli.Disk
import Windowing.Cli.Command
import Windowing.Cli.Help
import Windowing.Cli.Completion.Bash
import Windowing.Cli.Completion.Zsh
import Windowing.Cli.Completion.Fish
import Windowing.Cli.Completion.PowerShell
import Windowing.Cli.Completion
import Windowing.Cli.Ingest
import Windowing.Cli.Run
import Windowing.Main
import Windowing.Proofs.KeyMap
import Windowing.Proofs.Requests
import Windowing.Proofs.OpenWindows
import Windowing.Proofs.Conservation
import Windowing.Proofs.KeyedFamily
import Windowing.Proofs.Shutdown
import Windowing.Proofs.Counters
import Windowing.Proofs.Lifetime
import Windowing.Proofs.Processes.Invariant
import Windowing.Proofs.Processes.Stopping
import Windowing.Proofs.Processes.Pump
import Windowing.Proofs.Processes.Reachable
import Windowing.Proofs.Processes.Drain
import Windowing.Proofs.Processes.Reinjection
import Windowing.Proofs.DurationSetting
import Windowing.Proofs.TickGranularity
import Windowing.Proofs.Closings
import Windowing.Proofs.ActionRendering
import Windowing.Proofs.ClockDeltas
import Windowing.Proofs.Irrelevant
import Windowing.Proofs.BuildOrder
import Windowing.Proofs.JsonCheck
import Windowing.Proofs.JsonReadBack
import Windowing.Proofs.WireRoundTrip
import Windowing.Proofs.Ingestion
import Windowing.Proofs.SettingTrees
import Windowing.Proofs.SettingsLayers
import Windowing.Proofs.RetryLoop
