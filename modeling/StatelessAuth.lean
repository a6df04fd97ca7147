import StatelessAuth.App.Authentication
import StatelessAuth.App.Client
import StatelessAuth.App.Draft
import StatelessAuth.App.RequestBody
import StatelessAuth.App.Route
import StatelessAuth.App.Service
import StatelessAuth.App.Store
import StatelessAuth.Base64url
import StatelessAuth.Binary64
import StatelessAuth.Binary64.Decimal
import StatelessAuth.Binary64.Reading
import StatelessAuth.Calendar.Date
import StatelessAuth.Calendar.Fields
import StatelessAuth.Calendar.Instant
import StatelessAuth.Duration
import StatelessAuth.Environment
import StatelessAuth.Hash.Hmac
import StatelessAuth.Hash.Sha512
import StatelessAuth.Http.Address
import StatelessAuth.Http.Cookie
import StatelessAuth.Http.CookieHeader
import StatelessAuth.Http.Host
import StatelessAuth.Http.PathPattern
import StatelessAuth.Http.Request
import StatelessAuth.Http.Response
import StatelessAuth.Json.Encoding
import StatelessAuth.Json.Flaw
import StatelessAuth.Json.Numeral
import StatelessAuth.Json.Quoted
import StatelessAuth.Json.Reader
import StatelessAuth.Json.Writer
import StatelessAuth.Log.Argument
import StatelessAuth.Log.Entry
import StatelessAuth.Log.Message
import StatelessAuth.Log.Sink
import StatelessAuth.Log.Template
import StatelessAuth.Password
import StatelessAuth.Powers
import StatelessAuth.Refusal
import StatelessAuth.Schema.Fault
import StatelessAuth.Schema.Models
import StatelessAuth.Schema.Rule
import StatelessAuth.Settings
import StatelessAuth.Settings.Cache
import StatelessAuth.Signature
import StatelessAuth.Text.Blank
import StatelessAuth.Text.Case
import StatelessAuth.Text.Digits
import StatelessAuth.Text.Display
import StatelessAuth.Text.Printable
import StatelessAuth.Text.Split
import StatelessAuth.Text.Utf8
import StatelessAuth.Text.Wording
import StatelessAuth.Timestamp
import StatelessAuth.Token
import StatelessAuth.Value
import StatelessAuth.Value.Display
import StatelessAuth.Proofs.Base64url.Codec
import StatelessAuth.Proofs.Base64url.Exactness
import StatelessAuth.Proofs.Base64url.Layout
import StatelessAuth.Proofs.Base64url.Prefix
import StatelessAuth.Proofs.Binary64.Rounding
import StatelessAuth.Proofs.Calendar.Count
import StatelessAuth.Proofs.Calendar.Date
import StatelessAuth.Proofs.Calendar.Instant
import StatelessAuth.Proofs.Calendar.Order
import StatelessAuth.Proofs.Text.Blank
import StatelessAuth.Proofs.Text.Digits
import StatelessAuth.Proofs.Timestamp.Exactness
import StatelessAuth.Proofs.Timestamp.Grammar
import StatelessAuth.Proofs.Timestamp.Scan
import StatelessAuth.Proofs.Timestamp.RoundTrip
import StatelessAuth.Proofs.Timestamp.Canonical
import StatelessAuth.Proofs.Timestamp.PrefixFree
import StatelessAuth.Proofs.Timestamp.Zoned
import StatelessAuth.Proofs.Signature
import StatelessAuth.Proofs.Password
import StatelessAuth.Proofs.Text.Split
import StatelessAuth.Proofs.Text.Utf8
import StatelessAuth.Proofs.Text.Utf8.Grammar
import StatelessAuth.Proofs.Token.Codec
import StatelessAuth.Proofs.Token.Binding
import StatelessAuth.Proofs.Token.Acceptance
import StatelessAuth.Proofs.Token.Lifetime
import StatelessAuth.Proofs.Token.Nonpositive
import StatelessAuth.Proofs.Token.Precedence
import StatelessAuth.Proofs.Token.Failures
import StatelessAuth.Proofs.Token.DateTimes
import StatelessAuth.Proofs.App.Transcript
import StatelessAuth.Proofs.App.Authentication
import StatelessAuth.Proofs.App.Authenticity
import StatelessAuth.Proofs.App.Rejections
import StatelessAuth.Proofs.App.Configured
import StatelessAuth.Proofs.App.Transport
import StatelessAuth.Proofs.App.Admission
import StatelessAuth.Proofs.Settings.Loading
import StatelessAuth.Proofs.Settings.Keys
import StatelessAuth.Proofs.Duration
import StatelessAuth.Proofs.Duration.Accuracy
import StatelessAuth.Proofs.Schema.Rule
import StatelessAuth.Proofs.App.Session
import StatelessAuth.Proofs.App.Records
import StatelessAuth.Proofs.App.Revocation
import StatelessAuth.Proofs.Hash.Hmac
import StatelessAuth.Proofs.Token.Keys
import StatelessAuth.Proofs.Settings.Cache
import StatelessAuth.Proofs.Settings.Resolution
import StatelessAuth.Proofs.Log.Setup
import StatelessAuth.Proofs.Log.Delivery
import StatelessAuth.Proofs.Http.SetCookie
import StatelessAuth.Proofs.App.Draft
import StatelessAuth.Proofs.Schema.Truth
import StatelessAuth.Proofs.Schema.Shape
import StatelessAuth.Proofs.Schema.Records
import StatelessAuth.Proofs.App.Logoff
