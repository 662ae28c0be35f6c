import InferRoute.Breaker
import InferRoute.Chat.Decode
import InferRoute.Chat.History
import InferRoute.Chat.Message
import InferRoute.Cli.Args
import InferRoute.Cli.Logging
import InferRoute.Cli.Run
import InferRoute.Client.Call
import InferRoute.Client.Session
import InferRoute.Client.Transport
import InferRoute.Config.Basic
import InferRoute.Config.Env
import InferRoute.Config.File
import InferRoute.Data.Mismatch
import InferRoute.Error
import InferRoute.FileTree
import InferRoute.Health
import InferRoute.Http.Exchange
import InferRoute.Idna.Domain
import InferRoute.Idna.Mapping
import InferRoute.Idna.Punycode
import InferRoute.Json.Cursor
import InferRoute.Json.Decode
import InferRoute.Json.Error
import InferRoute.Json.Lexeme
import InferRoute.Json.Read
import InferRoute.Json.Schema
import InferRoute.Json.Value
import InferRoute.Log
import InferRoute.Main
import InferRoute.Model
import InferRoute.Number.Binary
import InferRoute.Number.Decimal
import InferRoute.Proofs.Breaker
import InferRoute.Proofs.Stream
import InferRoute.Retry.Policy
import InferRoute.Routing.Context
import InferRoute.Routing.Decision
import InferRoute.Routing.Pattern
import InferRoute.Stream.Decoder
import InferRoute.Stream.Event
import InferRoute.Stream.LineBuffer
import InferRoute.Stream.Run
import InferRoute.Text.Blank
import InferRoute.Text.Printable
import InferRoute.Text.Quoted
import InferRoute.Text.RangeSet
import InferRoute.Text.Search
import InferRoute.Text.Similarity
import InferRoute.Text.Utf8
import InferRoute.Toml.Document
import InferRoute.Toml.Lexeme
import InferRoute.Toml.Scan
import InferRoute.Toml.Value
import InferRoute.Unicode.Bidi
import InferRoute.Unicode.CombiningClass
import InferRoute.Unicode.Composition
import InferRoute.Unicode.Decomposition
import InferRoute.Unicode.Joining
import InferRoute.Unicode.Mark
import InferRoute.Unicode.Normal
import InferRoute.Url.Basic
import InferRoute.Url.Host
import InferRoute.Url.Percent
import InferRoute.Url.Read
import InferRoute.Wire.Chat
import InferRoute.Wire.Mesh
import InferRoute.Proofs.Session
import InferRoute.Proofs.Call
import InferRoute.Proofs.StreamControl
import InferRoute.Proofs.Retry
import InferRoute.Proofs.Abort
import InferRoute.Proofs.Utf8
import InferRoute.Proofs.LineBuffer
import InferRoute.Proofs.Usage
import InferRoute.Proofs.Routing
import InferRoute.Proofs.Outage
import InferRoute.Proofs.NeutralLines
import InferRoute.Proofs.RetrySchedule
import InferRoute.Proofs.Conversation
import InferRoute.Proofs.TurnJson
import InferRoute.Proofs.Complexity
import InferRoute.Proofs.Health
