import ObjectStore.Base64
import ObjectStore.Bytes
import ObjectStore.Calendar
import ObjectStore.Checksum.Crc32c
import ObjectStore.Checksum.Md5
import ObjectStore.Client.Address
import ObjectStore.Client.Config
import ObjectStore.Client.Exchange
import ObjectStore.Client.Operation
import ObjectStore.Client.Request
import ObjectStore.Client.Verdict
import ObjectStore.CommandLine.Arguments
import ObjectStore.CommandLine.Failure
import ObjectStore.CommandLine.Metadata
import ObjectStore.CommandLine.Run
import ObjectStore.CommandLine.Usage
import ObjectStore.Conformance.Catalogue
import ObjectStore.Conformance.Changing
import ObjectStore.Conformance.Creating
import ObjectStore.Conformance.Observing
import ObjectStore.Conformance.Registry
import ObjectStore.Conformance.Trial
import ObjectStore.Dictionary
import ObjectStore.Error
import ObjectStore.Http.Header
import ObjectStore.Http.Message
import ObjectStore.Http.Status
import ObjectStore.Json.Fault
import ObjectStore.Json.Printer
import ObjectStore.Json.Schema
import ObjectStore.Json.Skip
import ObjectStore.Json.Token
import ObjectStore.Json.Tree
import ObjectStore.Json.Value
import ObjectStore.Main
import ObjectStore.Object
import ObjectStore.Object.Decode
import ObjectStore.Percent
import ObjectStore.Percent.Cursor
import ObjectStore.Resource
import ObjectStore.Resource.Json
import ObjectStore.Simulation.Clock
import ObjectStore.Simulation.Server
import ObjectStore.Simulation.SharedClock
import ObjectStore.Simulation.Store
import ObjectStore.Text.Decimal
import ObjectStore.Text.Printable
import ObjectStore.Text.Quoted
import ObjectStore.Timestamp
import ObjectStore.Transport.Authorized
import ObjectStore.Transport.Faulty
import ObjectStore.Transport.Network
import ObjectStore.Transport.Scripted
import ObjectStore.Url.Basic
import ObjectStore.Url.Form
import ObjectStore.Url.Host
import ObjectStore.Url.Parser
import ObjectStore.Url.Punycode
import ObjectStore.Width
import ObjectStore.Proofs.Bytes
import ObjectStore.Proofs.Decimal
import ObjectStore.Proofs.Simulation.Change
import ObjectStore.Proofs.Simulation.Run
import ObjectStore.Proofs.Simulation.Session
import ObjectStore.Proofs.Simulation.Frame
import ObjectStore.Proofs.Simulation.Precondition
import ObjectStore.Proofs.Percent
import ObjectStore.Proofs.Url
import ObjectStore.Proofs.Client.Segment
import ObjectStore.Proofs.Form
import ObjectStore.Proofs.Json.Text
import ObjectStore.Proofs.Dictionary
import ObjectStore.Proofs.Json.Tree
import ObjectStore.Proofs.Json.Schema
import ObjectStore.Proofs.Resource
import ObjectStore.Proofs.Client.Place
import ObjectStore.Proofs.Atomic.Bucket
import ObjectStore.Proofs.Client.Request
import ObjectStore.Proofs.Client.Response
import ObjectStore.Proofs.Atomic.Operation
import ObjectStore.Proofs.Client.Update
import ObjectStore.Proofs.Atomic.Creation
import ObjectStore.Proofs.Atomic.Call
import ObjectStore.Proofs.Atomic.Interleaving
import ObjectStore.Proofs.Base64
import ObjectStore.Proofs.Calendar
import ObjectStore.Proofs.Timestamp
import ObjectStore.Proofs.Object
import ObjectStore.Proofs.Atomic.RoundTrip
import ObjectStore.Proofs.Simulation.Listing
import ObjectStore.Proofs.Atomic.Page
import ObjectStore.Proofs.Atomic.Paging
import ObjectStore.Proofs.Atomic.Identity
import ObjectStore.Proofs.Client.Destination
import ObjectStore.Proofs.Atomic.Pages
import ObjectStore.Proofs.Client.Conversation
import ObjectStore.Proofs.Client.Taxonomy
import ObjectStore.Proofs.Client.Discipline
import ObjectStore.Proofs.Atomic.Operated
import ObjectStore.Proofs.Atomic.Updates
import ObjectStore.Proofs.Atomic.Views
import ObjectStore.Proofs.Simulation.ContentType
import ObjectStore.Proofs.Wire
import ObjectStore.Proofs.Client.Bare
import ObjectStore.Proofs.Client.Authorization
import ObjectStore.Proofs.Decoding
import ObjectStore.Proofs.Atomic.Cursor
import ObjectStore.Proofs.Atomic.Grouping
import ObjectStore.Proofs.Atomic.Revision
import ObjectStore.Proofs.Rfc3339
import ObjectStore.Proofs.Checksum
import ObjectStore.Proofs.Printing
import ObjectStore.Proofs.Json.Document
import ObjectStore.Proofs.WireInteger
import ObjectStore.Proofs.Client.Traversal
import ObjectStore.Proofs.Client.Chunking
import ObjectStore.Proofs.Client.Patch
import ObjectStore.Proofs.CommandLine.Metadata
import ObjectStore.Proofs.CommandLine.Edits
import ObjectStore.Proofs.Escaping
import ObjectStore.Proofs.Unescaping
import ObjectStore.Proofs.WallClock
import ObjectStore.Proofs.Simulation.SharedClock
import ObjectStore.Proofs.Conformance
import ObjectStore.Proofs.CommandLine.Console
import ObjectStore.Proofs.CommandLine.Uris
