import Catalogue.Client.Argument
import Catalogue.Client.Ask
import Catalogue.Client.Command
import Catalogue.Client.CommandLine
import Catalogue.Client.Invocation
import Catalogue.Client.Reply
import Catalogue.Client.Transport
import Catalogue.Json.Display
import Catalogue.Json.Failure
import Catalogue.Json.Printer
import Catalogue.Json.Reader
import Catalogue.Json.Token
import Catalogue.Json.Value
import Catalogue.Log.Entry
import Catalogue.Log.Logger
import Catalogue.Main
import Catalogue.Matching
import Catalogue.Number.Decimal
import Catalogue.Number.Double
import Catalogue.Number.Shortest
import Catalogue.Number.Whole
import Catalogue.Painting
import Catalogue.Query
import Catalogue.Schema
import Catalogue.Server.Address
import Catalogue.Server.App
import Catalogue.Server.Documentation
import Catalogue.Server.Launch
import Catalogue.Server.MediaType
import Catalogue.Server.Operation
import Catalogue.Server.Response
import Catalogue.Server.Route
import Catalogue.Server.StaticFiles
import Catalogue.Service
import Catalogue.Settings
import Catalogue.Storage.Document
import Catalogue.Storage.FileSystem
import Catalogue.Storage.Path
import Catalogue.Text.Blank
import Catalogue.Text.CaseContext
import Catalogue.Text.CodePoint
import Catalogue.Text.DecimalDigit
import Catalogue.Text.Encoding
import Catalogue.Text.LetterCase
import Catalogue.Text.Percent
import Catalogue.Text.Printable
import Catalogue.Text.Quoted
import Catalogue.Text.SystemBytes
import Catalogue.Text.Utf8
import Catalogue.Proofs.Client.Served
import Catalogue.Proofs.Json.Budget
import Catalogue.Proofs.Json.Depth
import Catalogue.Proofs.Json.Grammar
import Catalogue.Proofs.Json.Members
import Catalogue.Proofs.Json.Nesting
import Catalogue.Proofs.Json.Number
import Catalogue.Proofs.Json.Parts
import Catalogue.Proofs.Json.Reading
import Catalogue.Proofs.Json.Scalars
import Catalogue.Proofs.Json.Separated
import Catalogue.Proofs.Json.Strings
import Catalogue.Proofs.Json.Surrogates
import Catalogue.Proofs.Json.Writing
import Catalogue.Proofs.Json.WrittenNumber
import Catalogue.Proofs.Json.WrittenString
import Catalogue.Proofs.Matching
import Catalogue.Proofs.Number.Decimal
import Catalogue.Proofs.Number.Rounding
import Catalogue.Proofs.Number.Shortest
import Catalogue.Proofs.Number.Whole
import Catalogue.Proofs.Query
import Catalogue.Proofs.Query.Identifiers
import Catalogue.Proofs.Server.App
import Catalogue.Proofs.Server.Body
import Catalogue.Proofs.Server.Documentation
import Catalogue.Proofs.Server.Listing
import Catalogue.Proofs.Server.Loading
import Catalogue.Proofs.Server.Route
import Catalogue.Proofs.Server.Run
import Catalogue.Proofs.Server.Taker
import Catalogue.Proofs.Service
import Catalogue.Proofs.Service.Interleaving
import Catalogue.Proofs.Storage.Document
import Catalogue.Proofs.Text.Digits
import Catalogue.Proofs.Text.Encoding
import Catalogue.Proofs.Text.Utf8
import Catalogue.Proofs.Json.Edits
import Catalogue.Proofs.Matching.Quoted
import Catalogue.Proofs.Query.Requoted
import Catalogue.Proofs.Server.Endpoint
import Catalogue.Proofs.Number.Range
import Catalogue.Proofs.Server.Isolation
import Catalogue.Proofs.Number.Bits
import Catalogue.Proofs.Matching.Rounded
import Catalogue.Proofs.Query.Years
import Catalogue.Proofs.Json.Openings
import Catalogue.Proofs.Json.Halting
import Catalogue.Proofs.Json.Faults
import Catalogue.Proofs.Storage.Faults
import Catalogue.Proofs.Json.Lockstep
import Catalogue.Proofs.Json.Offences
import Catalogue.Proofs.Server.Disposition
import Catalogue.Proofs.Client.Unreadable
import Catalogue.Proofs.Client.Messages
import Catalogue.Proofs.Client.Printed
import Catalogue.Proofs.Storage.Path
import Catalogue.Proofs.Schema
import Catalogue.Proofs.Log.Logger
