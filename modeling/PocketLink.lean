import PocketLink.CommandLine.Arguments
import PocketLink.CommandLine.Failure
import PocketLink.CommandLine.Job
import PocketLink.CommandLine.Program
import PocketLink.CommandLine.Transfer
import PocketLink.Context.Basic
import PocketLink.Context.Connect
import PocketLink.Context.Exchange
import PocketLink.Context.Spending
import PocketLink.Desktop.Basic
import PocketLink.Desktop.Documents
import PocketLink.Desktop.Enumerator
import PocketLink.Desktop.Events
import PocketLink.Desktop.Session
import PocketLink.Device.Guid
import PocketLink.Device.Info
import PocketLink.Dialect
import PocketLink.Error
import PocketLink.Files
import PocketLink.IoError
import PocketLink.Json.Basic
import PocketLink.Json.Printer
import PocketLink.Json.Reader
import PocketLink.Json.Record
import PocketLink.Link.Broker
import PocketLink.Link.Channel
import PocketLink.Link.Outside
import PocketLink.Link.Peer
import PocketLink.Link.Socket
import PocketLink.Main
import PocketLink.Operation
import PocketLink.Path
import PocketLink.Proofs.Agree
import PocketLink.Proofs.CommandLine.Download
import PocketLink.Proofs.CommandLine.Handles
import PocketLink.Proofs.CommandLine.RemoteFiles
import PocketLink.Proofs.CommandLine.Upload
import PocketLink.Proofs.Context.Codes
import PocketLink.Proofs.Context.Connection
import PocketLink.Proofs.Context.Conversation
import PocketLink.Proofs.Context.Dialects
import PocketLink.Proofs.Context.Establishing
import PocketLink.Proofs.Context.Exchange
import PocketLink.Proofs.Context.FailureCodes
import PocketLink.Proofs.Context.Interrupting
import PocketLink.Proofs.Context.Invocation
import PocketLink.Proofs.Context.Past
import PocketLink.Proofs.Context.Refusing
import PocketLink.Proofs.Context.Replies
import PocketLink.Proofs.Context.Sending
import PocketLink.Proofs.Context.Traffic
import PocketLink.Proofs.Context.Transaction
import PocketLink.Proofs.Desktop.Announcements
import PocketLink.Proofs.Desktop.Cookies
import PocketLink.Proofs.Desktop.CountingUp
import PocketLink.Proofs.Desktop.Discovery
import PocketLink.Proofs.Desktop.Enumerating
import PocketLink.Proofs.Desktop.Identifiers
import PocketLink.Proofs.Desktop.Membership
import PocketLink.Proofs.Desktop.Notification
import PocketLink.Proofs.Desktop.Paths
import PocketLink.Proofs.Desktop.Run
import PocketLink.Proofs.Desktop.Shutdown
import PocketLink.Proofs.Desktop.Sinks
import PocketLink.Proofs.Device.Guid
import PocketLink.Proofs.Entries
import PocketLink.Proofs.Files
import PocketLink.Proofs.Json.RoundTrip
import PocketLink.Proofs.Link.Socket
import PocketLink.Proofs.Link.Supply
import PocketLink.Proofs.Paths
import PocketLink.Proofs.Remote.Decoding
import PocketLink.Proofs.Remote.Grammar
import PocketLink.Proofs.Remote.Reading
import PocketLink.Proofs.Remote.Values
import PocketLink.Proofs.Resolver.Directory
import PocketLink.Proofs.Resolver.Flattening
import PocketLink.Proofs.Resolver.Lookup
import PocketLink.Proofs.Saving
import PocketLink.Proofs.Text.Hex
import PocketLink.Proofs.Text.Utf16
import PocketLink.Proofs.Text.Utf8
import PocketLink.Proofs.Upholds
import PocketLink.Proofs.Wire.AllOrNothing
import PocketLink.Proofs.Wire.Fields
import PocketLink.Proofs.Wire.Fragmentation
import PocketLink.Proofs.Wire.Frames
import PocketLink.Proofs.Wire.Grammar
import PocketLink.Proofs.Wire.Parts
import PocketLink.Proofs.Wire.Password
import PocketLink.Proofs.Wire.Receiving
import PocketLink.Proofs.Wire.Record
import PocketLink.Proofs.Wire.Strings
import PocketLink.Proofs.Wire.Truncation
import PocketLink.Remote.Answer
import PocketLink.Remote.Constants
import PocketLink.Remote.Documented
import PocketLink.Remote.Documents
import PocketLink.Remote.Request
import PocketLink.Resolver.Basic
import PocketLink.Resolver.Selector
import PocketLink.Settings
import PocketLink.Text.Ascii
import PocketLink.Text.Hex
import PocketLink.Text.Quoted
import PocketLink.Text.Size
import PocketLink.Text.Unprintable
import PocketLink.Text.Utf16
import PocketLink.Text.Utf8
import PocketLink.Wire.Buffer
import PocketLink.Wire.Command
import PocketLink.Wire.Decoder
import PocketLink.Wire.Encoding
import PocketLink.Wire.Error
import PocketLink.Wire.Frame
import PocketLink.Wire.LittleEndian
import PocketLink.Wire.Password
import PocketLink.Wire.Status
import PocketLink.Wire.Stream
