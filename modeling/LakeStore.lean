import LakeStore.Account
import LakeStore.Backend
import LakeStore.Backend.Command
import LakeStore.Blob.Record
import LakeStore.Blob.Stream
import LakeStore.Boot
import LakeStore.Config
import LakeStore.Config.Environment
import LakeStore.Deflate.Bits
import LakeStore.Deflate.Block
import LakeStore.Deflate.Checksum
import LakeStore.Deflate.Code
import LakeStore.Deflate.Flaw
import LakeStore.Deflate.Frame
import LakeStore.Dialogue
import LakeStore.Domain.Alphabet
import LakeStore.Domain.Flaw
import LakeStore.Domain.Label
import LakeStore.Domain.Name
import LakeStore.Domain.Property
import LakeStore.Domain.Punycode
import LakeStore.Entries
import LakeStore.Error
import LakeStore.Error.Foreign
import LakeStore.Error.Report
import LakeStore.Error.Spot
import LakeStore.Http.Client
import LakeStore.Http.Coding
import LakeStore.Http.Exchange
import LakeStore.Http.Headers
import LakeStore.Http.Host
import LakeStore.Http.Url
import LakeStore.Http.UrlFault
import LakeStore.Identifier
import LakeStore.Instrument
import LakeStore.Instrument.Rehearsal
import LakeStore.Json.Reader
import LakeStore.Json.Writer
import LakeStore.Key
import LakeStore.Lax
import LakeStore.Listing
import LakeStore.Log.Context
import LakeStore.Log.Note
import LakeStore.Log.Record
import LakeStore.Log.Settings
import LakeStore.Log.Setup
import LakeStore.Log.Template
import LakeStore.Manifest
import LakeStore.Manifest.Registry
import LakeStore.Number.Binary64
import LakeStore.Number.Decimal
import LakeStore.Number.Notation
import LakeStore.Number.Power
import LakeStore.Proofs.Dialogue
import LakeStore.Proofs.Exchange
import LakeStore.Proofs.Upload.Calls
import LakeStore.Remote.Classification
import LakeStore.Remote.Exchange
import LakeStore.Remote.Execution
import LakeStore.Remote.Operation
import LakeStore.Remote.Payload
import LakeStore.Remote.Transport
import LakeStore.Script
import LakeStore.Text.Base64
import LakeStore.Text.Blank
import LakeStore.Text.Bytes
import LakeStore.Text.Case
import LakeStore.Text.Composition
import LakeStore.Text.Digit
import LakeStore.Text.Encoding
import LakeStore.Text.Letter
import LakeStore.Text.Numeral
import LakeStore.Text.Octal
import LakeStore.Text.Percent
import LakeStore.Text.Printable
import LakeStore.Text.Quoted
import LakeStore.Text.Ranges
import LakeStore.Text.Trim
import LakeStore.Time.Instant
import LakeStore.Time.Moment
import LakeStore.Upload
import LakeStore.Value
import LakeStore.Value.Overlay
import LakeStore.Yaml.Cursor
import LakeStore.Yaml.Document
import LakeStore.Yaml.Node
import LakeStore.Yaml.Object
import LakeStore.Yaml.Scalar
import LakeStore.Yaml.Tag
import LakeStore.Yaml.Token
import LakeStore.Yaml.Token.Lexer
import LakeStore.Yaml.Token.Scalar
import LakeStore.Proofs.Identifier
import LakeStore.Proofs.Lease
import LakeStore.Proofs.Upload.Session
import LakeStore.Proofs.Upload.Network
import LakeStore.Proofs.Upload.Retry
import LakeStore.Proofs.Deletion
import LakeStore.Proofs.Path
import LakeStore.Proofs.Tree
import LakeStore.Proofs.Listing
import LakeStore.Proofs.Emptying
import LakeStore.Proofs.Transcript
import LakeStore.Proofs.Walk
import LakeStore.Proofs.Upload.Parts
import LakeStore.Proofs.Ending
import LakeStore.Proofs.Upload.Tenure
import LakeStore.Proofs.Upload.Rival
import LakeStore.Proofs.Recursion
import LakeStore.Proofs.Finishing
import LakeStore.Proofs.Places
import LakeStore.Proofs.Subtree
import LakeStore.Proofs.Drilldown
import LakeStore.Proofs.Turn
import LakeStore.Proofs.Upload.Accounting
import LakeStore.Proofs.Sending
import LakeStore.Proofs.Requests
import LakeStore.Proofs.Percent
import LakeStore.Proofs.Dots
import LakeStore.Proofs.Address
import LakeStore.Proofs.Encoding
import LakeStore.Proofs.Lapse
import LakeStore.Proofs.Reading
import LakeStore.Proofs.Containment
import LakeStore.Proofs.Checks
import LakeStore.Proofs.Registry
import LakeStore.Proofs.Repeating
import LakeStore.Proofs.Normal
import LakeStore.Proofs.Observation
import LakeStore.Proofs.Spans
import LakeStore.Proofs.Transparency
import LakeStore.Proofs.Upload.Outcome
import LakeStore.Proofs.Batch
import LakeStore.Proofs.Blindness
import LakeStore.Proofs.Budget
import LakeStore.Proofs.Envelope
import LakeStore.Proofs.Fields
import LakeStore.Proofs.Overlay
import LakeStore.Proofs.Precedence
import LakeStore.Proofs.Delivery
import LakeStore.Proofs.Reconfiguration
import LakeStore.Proofs.Agreement
import LakeStore.Proofs.Journal
import LakeStore.Proofs.Instant
import LakeStore.Proofs.Mapping
import LakeStore.Proofs.Timestamp
import LakeStore.Proofs.FileSession
