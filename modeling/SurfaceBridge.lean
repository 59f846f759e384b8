import SurfaceBridge.Bridge.Basic
import SurfaceBridge.Bridge.Event
import SurfaceBridge.Bridge.Session
import SurfaceBridge.Counter
import SurfaceBridge.Decimal.Shortest
import SurfaceBridge.Dictionary
import SurfaceBridge.Editor.Content
import SurfaceBridge.Editor.ContentFile
import SurfaceBridge.Editor.Controls
import SurfaceBridge.Editor.StoredFile
import SurfaceBridge.Editor.Surface
import SurfaceBridge.Editor.Workspace
import SurfaceBridge.Highlight.Classifier
import SurfaceBridge.Highlight.TokenClass
import SurfaceBridge.Json.Basic
import SurfaceBridge.Json.Decoder
import SurfaceBridge.Json.Error
import SurfaceBridge.Json.Number
import SurfaceBridge.Json.Printer
import SurfaceBridge.Json.Reader
import SurfaceBridge.Language.Basic
import SurfaceBridge.Language.Registry
import SurfaceBridge.Main
import SurfaceBridge.Pattern.Expr
import SurfaceBridge.Pattern.Program
import SurfaceBridge.Pattern.Reader
import SurfaceBridge.Pattern.Search
import SurfaceBridge.Pattern.Tree
import SurfaceBridge.Protocol.ClientNotification
import SurfaceBridge.Protocol.Error
import SurfaceBridge.Protocol.ServerNotification
import SurfaceBridge.Rpc.Client
import SurfaceBridge.Rpc.Frame
import SurfaceBridge.Rpc.Line
import SurfaceBridge.Rpc.Message
import SurfaceBridge.Server.Location
import SurfaceBridge.Server.Reconnect
import SurfaceBridge.Server.Settings
import SurfaceBridge.Server.Socket
import SurfaceBridge.Server.Worker
import SurfaceBridge.Terminal.Arguments
import SurfaceBridge.Terminal.Command
import SurfaceBridge.Terminal.Configuration
import SurfaceBridge.Terminal.Shell
import SurfaceBridge.Text.Blank
import SurfaceBridge.Text.Bytes
import SurfaceBridge.Text.Lines
import SurfaceBridge.Text.LowerCase
import SurfaceBridge.Text.Quoted
import SurfaceBridge.Toml.Basic
import SurfaceBridge.Toml.Document
import SurfaceBridge.Toml.Number
import SurfaceBridge.Toml.Reader
import SurfaceBridge.Toml.Table
import SurfaceBridge.Toml.Text
import SurfaceBridge.Unicode.CaseFold
import SurfaceBridge.Unicode.Category
import SurfaceBridge.Unicode.ClassName
import SurfaceBridge.Unicode.Composition
import SurfaceBridge.Unicode.Direction
import SurfaceBridge.Unicode.DomainMapping
import SurfaceBridge.Unicode.Joining
import SurfaceBridge.Unicode.LowerCase
import SurfaceBridge.Unicode.MappingTable
import SurfaceBridge.Unicode.Normal
import SurfaceBridge.Unicode.Printable
import SurfaceBridge.Unicode.Property
import SurfaceBridge.Unicode.RangeSet
import SurfaceBridge.Unicode.RangeTable
import SurfaceBridge.Unicode.Script
import SurfaceBridge.Url.Basic
import SurfaceBridge.Url.DomainName
import SurfaceBridge.Url.Error
import SurfaceBridge.Url.FilePath
import SurfaceBridge.Url.Host
import SurfaceBridge.Url.Ipv4
import SurfaceBridge.Url.Ipv6
import SurfaceBridge.Url.Parser
import SurfaceBridge.Url.Path
import SurfaceBridge.Url.PercentEncoding
import SurfaceBridge.Url.Punycode
import SurfaceBridge.Proofs.Rpc.Queueing
import SurfaceBridge.Proofs.Bridge.Notices
import SurfaceBridge.Proofs.Bridge.Handshake
import SurfaceBridge.Proofs.Bridge.Poll
import SurfaceBridge.Proofs.Bridge.Run
import SurfaceBridge.Proofs.Bridge.Conversation
import SurfaceBridge.Proofs.Bridge.Isolation
import SurfaceBridge.Proofs.Bridge.Delivery
import SurfaceBridge.Proofs.Bridge.Agreement
import SurfaceBridge.Proofs.Rpc.Replying
import SurfaceBridge.Proofs.Bridge.Messages
import SurfaceBridge.Proofs.Bridge.Replies
import SurfaceBridge.Proofs.Bridge.Deferral
import SurfaceBridge.Proofs.Bridge.Dispatching
import SurfaceBridge.Proofs.Bridge.Independence
import SurfaceBridge.Proofs.Json.Numerals
import SurfaceBridge.Proofs.Json.Quoting
import SurfaceBridge.Proofs.Json.RoundTrip
import SurfaceBridge.Proofs.Json.Skipping
import SurfaceBridge.Proofs.Json.Sides
import SurfaceBridge.Proofs.Protocol.Payloads
import SurfaceBridge.Proofs.Rpc.Wire
import SurfaceBridge.Proofs.Bridge.Tables
import SurfaceBridge.Proofs.Bridge.Failures
import SurfaceBridge.Proofs.Editor.ChangeLog
import SurfaceBridge.Proofs.Bridge.Deciding
import SurfaceBridge.Proofs.Bridge.Confinement
import SurfaceBridge.Proofs.Json.Grammar
import SurfaceBridge.Proofs.Json.Recognizing
import SurfaceBridge.Proofs.Editor.Saving
import SurfaceBridge.Proofs.Text.Columns
import SurfaceBridge.Proofs.Pattern.Bounds
import SurfaceBridge.Proofs.Highlight.Finding
import SurfaceBridge.Proofs.Highlight.Scanning
import SurfaceBridge.Proofs.Highlight.Spans
import SurfaceBridge.Proofs.Json.Delimiting
import SurfaceBridge.Proofs.Json.Writing
import SurfaceBridge.Proofs.Protocol.HighlightTable
import SurfaceBridge.Proofs.Bridge.SessionStart
import SurfaceBridge.Proofs.Highlight.Locality
import SurfaceBridge.Proofs.Highlight.Shadowing
import SurfaceBridge.Proofs.Bridge.Selecting
import SurfaceBridge.Proofs.Unicode.Composing
import SurfaceBridge.Proofs.Url.Hosts
import SurfaceBridge.Proofs.Url.Authority
import SurfaceBridge.Proofs.Server.Paths
import SurfaceBridge.Proofs.Server.Reaching
import SurfaceBridge.Proofs.Bridge.Resending
import SurfaceBridge.Proofs.Editor.StoreHistory
import SurfaceBridge.Proofs.Text.Trimming
import SurfaceBridge.Proofs.Terminal.CommandLine
import SurfaceBridge.Proofs.Text.ByteOrder
import SurfaceBridge.Proofs.Language.Entries
import SurfaceBridge.Proofs.Server.PortNumerals
import SurfaceBridge.Proofs.Server.GivingUp
import SurfaceBridge.Proofs.Json.Fields
import SurfaceBridge.Proofs.Terminal.Precedence
