import CompletionClient.Numeral.Binary64
import CompletionClient.Text.Ranges
import CompletionClient.Text.Blank
import CompletionClient.Text.Digit
import CompletionClient.Text.Printable
import CompletionClient.Text.Quoted
import CompletionClient.Fault
import CompletionClient.Numeral.Integer
import CompletionClient.Text.Utf8
import CompletionClient.Data.Value
import CompletionClient.Data.Display
import CompletionClient.Data.Json
import CompletionClient.Data.Access
import CompletionClient.Path.Posix
import CompletionClient.Path.Host
import CompletionClient.Path.FileUrl
import CompletionClient.Path.Locator
import CompletionClient.Language
import CompletionClient.Version
import CompletionClient.Metadata
import CompletionClient.Installation
import CompletionClient.Settings
import CompletionClient.Server
import CompletionClient.DocumentPool
import CompletionClient.Wire.Request
import CompletionClient.Wire.Response
import CompletionClient.Service.RunQueue
import CompletionClient.Service.Lifecycle
import CompletionClient.Service.Endpoint
import CompletionClient.Service.World
import CompletionClient.Service.Activity
import CompletionClient.Service.Session
import CompletionClient.CommandLine.FileSystem
import CompletionClient.CommandLine.Options
import CompletionClient.CommandLine.Run
import CompletionClient.Main
import CompletionClient.Proofs.Service.Run
import CompletionClient.Proofs.Service.Queue
import CompletionClient.Proofs.Service.Effects
import CompletionClient.Proofs.Service.Roles
import CompletionClient.Proofs.Service.Typing
import CompletionClient.Proofs.Service.References
import CompletionClient.Proofs.Service.Steps
import CompletionClient.Proofs.Service.Activities
import CompletionClient.Proofs.Service.Invariant
import CompletionClient.Proofs.DocumentPool.OrderedMap
import CompletionClient.Proofs.Path.Normal
import CompletionClient.Proofs.Service.RequestContext
import CompletionClient.Proofs.Service.CancelNotice
import CompletionClient.Proofs.Service.LifeShape
import CompletionClient.Proofs.Service.Lifecycle
import CompletionClient.Proofs.Service.Events
import CompletionClient.Proofs.Wire.Decoding
import CompletionClient.Proofs.Service.FailedLaunch
import CompletionClient.Proofs.Service.Versions
import CompletionClient.Proofs.Service.VersionAgreement
import CompletionClient.Proofs.Service.ErrorPolicy
import CompletionClient.Proofs.Wire.Encoding
import CompletionClient.Proofs.Path.Relative
import CompletionClient.Proofs.Installation.Check
import CompletionClient.Proofs.Metadata.IdeVersion
import CompletionClient.Proofs.Text.Tables
import CompletionClient.Proofs.Numeral.DigitTexts
import CompletionClient.Proofs.Service.ServerMoves
import CompletionClient.Proofs.Service.SharedLaunch
import CompletionClient.Proofs.Service.Ledger
import CompletionClient.Proofs.Service.Outcomes
import CompletionClient.Proofs.Service.Flights
import CompletionClient.Proofs.Service.Supersession
