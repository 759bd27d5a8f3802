import BearerIdentity.Application
import BearerIdentity.Bytes
import BearerIdentity.Cache.Basic
import BearerIdentity.Cache.Flight
import BearerIdentity.Cache.Pressure
import BearerIdentity.Cache.Renewal
import BearerIdentity.Cache.Simulation
import BearerIdentity.Client.Access
import BearerIdentity.Client.Caches
import BearerIdentity.Client.Config
import BearerIdentity.Client.Identity
import BearerIdentity.Client.IdentityUri
import BearerIdentity.Client.Introspection
import BearerIdentity.Client.Options
import BearerIdentity.Client.TokenResource
import BearerIdentity.Crypto.Aes
import BearerIdentity.Crypto.Ecdsa
import BearerIdentity.Crypto.Ed25519
import BearerIdentity.Crypto.Gcm
import BearerIdentity.Crypto.Hmac
import BearerIdentity.Crypto.Modular
import BearerIdentity.Crypto.Rsa
import BearerIdentity.Crypto.Sha2
import BearerIdentity.Environment
import BearerIdentity.Error
import BearerIdentity.Flow
import BearerIdentity.Http.Classification
import BearerIdentity.Http.Exchange
import BearerIdentity.Http.Request
import BearerIdentity.Http.Response
import BearerIdentity.Http.RouteTable
import BearerIdentity.Http.Timeouts
import BearerIdentity.Instant
import BearerIdentity.Instant.Calendar
import BearerIdentity.Issuer.Basic
import BearerIdentity.Issuer.Discovery
import BearerIdentity.Issuer.Endpoints
import BearerIdentity.Issuer.Metadata
import BearerIdentity.Json.Binary64
import BearerIdentity.Json.Decode
import BearerIdentity.Json.Description
import BearerIdentity.Json.Node
import BearerIdentity.Json.Printer
import BearerIdentity.Json.Shortest
import BearerIdentity.Json.Value
import BearerIdentity.Key.Algorithm
import BearerIdentity.Key.KeySet
import BearerIdentity.Key.Signature
import BearerIdentity.Key.Source
import BearerIdentity.Key.WebKey
import BearerIdentity.Login.Basic
import BearerIdentity.Login.Subject
import BearerIdentity.Operation
import BearerIdentity.Proofs.Bytes
import BearerIdentity.Proofs.Bytes.Padding
import BearerIdentity.Proofs.Cache.Clearing
import BearerIdentity.Proofs.Cache.Dating
import BearerIdentity.Proofs.Cache.HandOver
import BearerIdentity.Proofs.Cache.Holding
import BearerIdentity.Proofs.Cache.Order
import BearerIdentity.Proofs.Cache.Queue
import BearerIdentity.Proofs.Cache.Relief
import BearerIdentity.Proofs.Cache.Renewal
import BearerIdentity.Proofs.Cache.Run
import BearerIdentity.Proofs.Cache.SharedOutcome
import BearerIdentity.Proofs.Cache.SingleFlight
import BearerIdentity.Proofs.Client.Acceptance
import BearerIdentity.Proofs.Client.AccessForm
import BearerIdentity.Proofs.Client.AccessRequest
import BearerIdentity.Proofs.Client.Calendar
import BearerIdentity.Proofs.Client.Configured
import BearerIdentity.Proofs.Client.Delegation
import BearerIdentity.Proofs.Client.Frugality
import BearerIdentity.Proofs.Client.IdentityUri
import BearerIdentity.Proofs.Client.Incident
import BearerIdentity.Proofs.Client.Life
import BearerIdentity.Proofs.Client.OwnName
import BearerIdentity.Proofs.Client.OwnToken
import BearerIdentity.Proofs.Client.Redaction
import BearerIdentity.Proofs.Client.Renewing
import BearerIdentity.Proofs.Client.Resolution
import BearerIdentity.Proofs.Client.Settings
import BearerIdentity.Proofs.Client.Spelling
import BearerIdentity.Proofs.Client.Sufficiency
import BearerIdentity.Proofs.Client.TokenFetch
import BearerIdentity.Proofs.Crypto.Gcm
import BearerIdentity.Proofs.Crypto.Modular
import BearerIdentity.Proofs.Http.Body
import BearerIdentity.Proofs.Http.Credentials
import BearerIdentity.Proofs.Http.Exchange
import BearerIdentity.Proofs.Http.Headers
import BearerIdentity.Proofs.Http.Refusal
import BearerIdentity.Proofs.Issuer.Check
import BearerIdentity.Proofs.Issuer.Precedence
import BearerIdentity.Proofs.Json.Extent
import BearerIdentity.Proofs.Json.Part
import BearerIdentity.Proofs.Json.Record
import BearerIdentity.Proofs.Json.Scalar
import BearerIdentity.Proofs.Key.Document
import BearerIdentity.Proofs.Key.Endorsement
import BearerIdentity.Proofs.Key.Interference
import BearerIdentity.Proofs.Key.Pacing
import BearerIdentity.Proofs.Key.Provenance
import BearerIdentity.Proofs.Key.Repetition
import BearerIdentity.Proofs.Key.Revocation
import BearerIdentity.Proofs.Key.Rotation
import BearerIdentity.Proofs.Key.Suitability
import BearerIdentity.Proofs.Keyed
import BearerIdentity.Proofs.Login.Agreement
import BearerIdentity.Proofs.Login.Principals
import BearerIdentity.Proofs.Operation.Answering
import BearerIdentity.Proofs.Operation.Course
import BearerIdentity.Proofs.Operation.Failure
import BearerIdentity.Proofs.Operation.Invariant
import BearerIdentity.Proofs.Operation.Repetition
import BearerIdentity.Proofs.Operation.Success
import BearerIdentity.Proofs.Rendering
import BearerIdentity.Proofs.Sasl.ClaimedIdentity
import BearerIdentity.Proofs.Sasl.Dialogue
import BearerIdentity.Proofs.Sasl.Exposure
import BearerIdentity.Proofs.Sasl.Framing
import BearerIdentity.Proofs.Sasl.KeyAgreement
import BearerIdentity.Proofs.Sasl.Mechanism
import BearerIdentity.Proofs.Sasl.Message.Attributes
import BearerIdentity.Proofs.Sasl.Message.Escaping
import BearerIdentity.Proofs.Sasl.Message.Grammar
import BearerIdentity.Proofs.Sasl.Message.Header
import BearerIdentity.Proofs.Sasl.Message.RoundTrip
import BearerIdentity.Proofs.Sasl.Message.Smuggling
import BearerIdentity.Proofs.Sasl.Payload
import BearerIdentity.Proofs.Sasl.SealedExchange
import BearerIdentity.Proofs.Sasl.Sealing
import BearerIdentity.Proofs.Sasl.Session
import BearerIdentity.Proofs.Sasl.SingleFrame
import BearerIdentity.Proofs.Sasl.SingleResponse
import BearerIdentity.Proofs.Sasl.SingleTicket
import BearerIdentity.Proofs.Sasl.SingleVerdict
import BearerIdentity.Proofs.Text.Ascii
import BearerIdentity.Proofs.Text.Base64
import BearerIdentity.Proofs.Text.Blank
import BearerIdentity.Proofs.Text.Decimal
import BearerIdentity.Proofs.Text.Percent
import BearerIdentity.Proofs.Text.Slice
import BearerIdentity.Proofs.Text.Split
import BearerIdentity.Proofs.Text.Utf8
import BearerIdentity.Proofs.Token.Calendar
import BearerIdentity.Proofs.Token.Lifetime
import BearerIdentity.Proofs.Token.Presence
import BearerIdentity.Proofs.Token.Unreadable
import BearerIdentity.Proofs.Token.Validity
import BearerIdentity.Proofs.Url.Address
import BearerIdentity.Proofs.Url.Authority
import BearerIdentity.Proofs.Url.Domain
import BearerIdentity.Proofs.Url.Form
import BearerIdentity.Proofs.Url.Host
import BearerIdentity.Proofs.Url.Spelling
import BearerIdentity.Rendering
import BearerIdentity.Sasl.Client
import BearerIdentity.Sasl.Frame
import BearerIdentity.Sasl.KeyExchange
import BearerIdentity.Sasl.Mechanism
import BearerIdentity.Sasl.Message
import BearerIdentity.Sasl.Party
import BearerIdentity.Sasl.Registry
import BearerIdentity.Sasl.SealedClient
import BearerIdentity.Sasl.SealedServer
import BearerIdentity.Sasl.Server
import BearerIdentity.Text.Ascii
import BearerIdentity.Text.Base64
import BearerIdentity.Text.Blank
import BearerIdentity.Text.Chart
import BearerIdentity.Text.Composition
import BearerIdentity.Text.Direction
import BearerIdentity.Text.Hex
import BearerIdentity.Text.Joining
import BearerIdentity.Text.Mark
import BearerIdentity.Text.Percent
import BearerIdentity.Text.Punycode
import BearerIdentity.Text.Split
import BearerIdentity.Text.Utf8
import BearerIdentity.Text.Visible
import BearerIdentity.Token.Claims
import BearerIdentity.Token.Secret
import BearerIdentity.Token.Signed
import BearerIdentity.Token.Validity
import BearerIdentity.Url.Address
import BearerIdentity.Url.Basic
import BearerIdentity.Url.Description
import BearerIdentity.Url.Domain
import BearerIdentity.Url.Form
import BearerIdentity.Url.Mapping
import BearerIdentity.Url.Parser
