import Runboard.Board.Basic
import Runboard.Board.Dispatch
import Runboard.Board.Report
import Runboard.Catalog.Endpoint
import Runboard.Catalog.Load
import Runboard.Command.Basic
import Runboard.Command.Parser
import Runboard.Display
import Runboard.Feed.Channel
import Runboard.Feed.Run
import Runboard.File
import Runboard.Json.Basic
import Runboard.Json.Fault
import Runboard.Json.Lexeme
import Runboard.Json.Mismatch
import Runboard.Json.Parser
import Runboard.Json.Skip
import Runboard.Log
import Runboard.Main
import Runboard.Message.Basic
import Runboard.Message.Frame
import Runboard.Message.Reader
import Runboard.Number.Binary
import Runboard.Number.Decimal
import Runboard.Number.Shortest
import Runboard.Program
import Runboard.Proofs.Board.Accounting
import Runboard.Proofs.Board.Applied
import Runboard.Proofs.Board.Consistency
import Runboard.Proofs.Board.Freshness
import Runboard.Proofs.Board.Growth
import Runboard.Proofs.Board.History
import Runboard.Proofs.Board.Injection
import Runboard.Proofs.Board.Isolation
import Runboard.Proofs.Board.Reordering
import Runboard.Proofs.Display.Blocks
import Runboard.Proofs.Display.Writing
import Runboard.Proofs.Feed.Alert
import Runboard.Proofs.Feed.Closing
import Runboard.Proofs.Feed.Composition
import Runboard.Proofs.Feed.Counting
import Runboard.Proofs.Feed.Producer
import Runboard.Proofs.Feed.Recording
import Runboard.Proofs.Feed.Script
import Runboard.Proofs.Feed.SharedBar
import Runboard.Proofs.Json.Lexeme
import Runboard.Proofs.Json.Ordered
import Runboard.Proofs.Json.Roundtrip
import Runboard.Proofs.Json.Spelling
import Runboard.Proofs.Json.Trailing
import Runboard.Proofs.Json.TrailingLexeme
import Runboard.Proofs.Keyed
import Runboard.Proofs.Message.Diagnosis
import Runboard.Proofs.Message.Direct
import Runboard.Proofs.Message.ExactCounter
import Runboard.Proofs.Message.Fields
import Runboard.Proofs.Message.FloatCounter
import Runboard.Proofs.Message.Roundtrip
import Runboard.Proofs.Message.Schema
import Runboard.Proofs.Number.Grid
import Runboard.Proofs.Number.Layout
import Runboard.Proofs.Number.Shortest
import Runboard.Proofs.Session.Drawing
import Runboard.Proofs.Session.Refusal
import Runboard.Proofs.Session.Schedule
import Runboard.Proofs.Session.Sequence
import Runboard.Proofs.Session.Transcript
import Runboard.Proofs.Text.Printed
import Runboard.Ron.Number
import Runboard.Ron.Scan
import Runboard.Ron.Text
import Runboard.Ron.Value
import Runboard.Session
import Runboard.Settings
import Runboard.Text.Basic
import Runboard.Text.Identifier
import Runboard.Text.Printable
import Runboard.Text.Quoted
import Runboard.Url.Address
import Runboard.Url.Host
import Runboard.Url.Parser
import Runboard.Url.Punycode
import Runboard.Yaml.Document
import Runboard.Yaml.Event
import Runboard.Yaml.Lexer
import Runboard.Yaml.Property
import Runboard.Yaml.Resolve
import Runboard.Yaml.Scalar.Block
import Runboard.Yaml.Scalar.Flow
import Runboard.Yaml.Token
