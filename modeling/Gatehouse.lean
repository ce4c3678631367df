import Gatehouse.Main
import Gatehouse.Uuid
import Gatehouse.Proofs.Assertion
import Gatehouse.Proofs.Base64
import Gatehouse.Proofs.Result
import Gatehouse.Proofs.Pem
import Gatehouse.Proofs.SortedMap
import Gatehouse.Proofs.Json.Text
import Gatehouse.Proofs.Json.Number
import Gatehouse.Proofs.Json.Value
import Gatehouse.Proofs.Token
import Gatehouse.Proofs.Json.Shape
import Gatehouse.Proofs.Session
import Gatehouse.Proofs.Registry.Calls
import Gatehouse.Proofs.Registry.Memory
import Gatehouse.Proofs.Json.Document
import Gatehouse.Proofs.Http.Service
import Gatehouse.Proofs.Http.Run
import Gatehouse.Proofs.Host.Disk
import Gatehouse.Proofs.Registry.Database
import Gatehouse.Proofs.Registry.Store
import Gatehouse.Proofs.Http.Frame
import Gatehouse.Proofs.Registry.Standard
import Gatehouse.Proofs.Registry.Backends
import Gatehouse.Proofs.Registry.Levels
import Gatehouse.Proofs.Assertion.Decision
import Gatehouse.Proofs.Http.Outage
import Gatehouse.Proofs.Registry.History
import Gatehouse.Proofs.Session.Claims
import Gatehouse.Proofs.Session.Decision
import Gatehouse.Proofs.Key.Normal
import Gatehouse.Proofs.Registry.Record
import Gatehouse.Proofs.Registry.Invariant
import Gatehouse.Proofs.Http.Refusals
import Gatehouse.Proofs.Json.Given
import Gatehouse.Proofs.Http.Keys
import Gatehouse.Proofs.Http.KeyMap
import Gatehouse.Proofs.Http.Trail
import Gatehouse.Proofs.Http.Credentials
import Gatehouse.Proofs.Json.Order
import Gatehouse.Proofs.Key.Signature
import Gatehouse.Proofs.Key.Usable
import Gatehouse.Proofs.Key.Bare
import Gatehouse.Proofs.Token.Signed
import Gatehouse.Proofs.Http.Exchange
import Gatehouse.Proofs.Http.Cookie
import Gatehouse.Proofs.Http.Sources
import Gatehouse.Proofs.Registry.Isolation
import Gatehouse.Proofs.Registry.Slots
import Gatehouse.Proofs.Host.Path
import Gatehouse.Proofs.Registry.Place
import Gatehouse.Proofs.Json.Flat
import Gatehouse.Proofs.Audit
import Gatehouse.Proofs.Startup
import Gatehouse.Proofs.Text.Words
import Gatehouse.Proofs.Http.Bearer
import Gatehouse.Proofs.Registry.Selection
import Gatehouse.Proofs.Http.BodyLimit
import Gatehouse.Proofs.Settings.File
import Gatehouse.Proofs.CommandLine.Renewal
import Gatehouse.Proofs.Json.Grammar
import Gatehouse.Proofs.Json.Letters
import Gatehouse.Proofs.Json.Numeral
import Gatehouse.Proofs.Json.Syntax
import Gatehouse.Proofs.Json.Limits
import Gatehouse.Proofs.Token.Format
import Gatehouse.Proofs.Number.Rounding
import Gatehouse.Proofs.Json.Integer
import Gatehouse.Proofs.Token.Time
