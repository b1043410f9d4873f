import FieldSeal.Action
import FieldSeal.Binding
import FieldSeal.Bytes.Base64Url
import FieldSeal.Bytes.Hex
import FieldSeal.Bytes.Utf8
import FieldSeal.Cipher.Cbc
import FieldSeal.Cipher.ChaCha20
import FieldSeal.Cipher.ChaChaPoly
import FieldSeal.Cipher.Hmac
import FieldSeal.Cipher.Padding
import FieldSeal.Cipher.Poly1305
import FieldSeal.Cipher.Sm3
import FieldSeal.Cipher.Sm4
import FieldSeal.Cipher.Word
import FieldSeal.Codec
import FieldSeal.Decimal.Binary64
import FieldSeal.Decimal.Shortest
import FieldSeal.Document.Field
import FieldSeal.Document.Path
import FieldSeal.Document.Walk
import FieldSeal.Entropy
import FieldSeal.Envelope
import FieldSeal.Envelope.Wire
import FieldSeal.Error
import FieldSeal.Event
import FieldSeal.Exchange.Failure
import FieldSeal.Exchange.FieldSpec
import FieldSeal.Exchange.Message
import FieldSeal.Exchange.Name
import FieldSeal.Http.MediaType
import FieldSeal.Http.Message
import FieldSeal.Http.Server
import FieldSeal.Json.Basic
import FieldSeal.Json.Number
import FieldSeal.Json.Printer
import FieldSeal.Json.Reader
import FieldSeal.Json.Record
import FieldSeal.Json.Token
import FieldSeal.Key.Kind
import FieldSeal.Key.Pair
import FieldSeal.Key.Ring
import FieldSeal.Key.Supply
import FieldSeal.Mask.Kind
import FieldSeal.Mask.Masker
import FieldSeal.Mask.Rule
import FieldSeal.Mask.Text
import FieldSeal.Pattern
import FieldSeal.Pattern.Ast
import FieldSeal.Pattern.Reader
import FieldSeal.Pattern.Resolve
import FieldSeal.Pattern.Search
import FieldSeal.Pattern.Shape
import FieldSeal.Pattern.Size
import FieldSeal.Policy
import FieldSeal.Registry
import FieldSeal.Sealer
import FieldSeal.Sealer.Gm
import FieldSeal.Sealer.Modern
import FieldSeal.Sealer.Plain
import FieldSeal.Service
import FieldSeal.Settings
import FieldSeal.Suite
import FieldSeal.Text.Split
import FieldSeal.Unicode.Age
import FieldSeal.Unicode.Blank
import FieldSeal.Unicode.CaseFold
import FieldSeal.Unicode.Category
import FieldSeal.Unicode.CodeSet
import FieldSeal.Unicode.Digit
import FieldSeal.Unicode.Property
import FieldSeal.Unicode.Query
import FieldSeal.Unicode.Script
import FieldSeal.Unicode.Segment
import FieldSeal.Proofs.Cipher.Blocks
import FieldSeal.Proofs.Cipher.Chaining
import FieldSeal.Proofs.Cipher.StartValue
import FieldSeal.Proofs.Cipher.Authenticated
import FieldSeal.Proofs.Action
import FieldSeal.Proofs.Sealer.Inverse
import FieldSeal.Proofs.Sealer.Obstacle
import FieldSeal.Proofs.Bytes.Base64Url
import FieldSeal.Proofs.Text.Split
import FieldSeal.Proofs.Envelope.Wire
import FieldSeal.Proofs.Registry
import FieldSeal.Proofs.Envelope.Readers
import FieldSeal.Proofs.Key.Supply
import FieldSeal.Proofs.Key.Spending
import FieldSeal.Proofs.Service.Readable
import FieldSeal.Proofs.Service.Spending
import FieldSeal.Proofs.Service.Binding
import FieldSeal.Proofs.Codec
import FieldSeal.Proofs.Session.Basic
import FieldSeal.Proofs.Session.Durable
import FieldSeal.Proofs.Session.Spending
import FieldSeal.Proofs.Session.Account
import FieldSeal.Proofs.Document.Place
import FieldSeal.Proofs.Document.Visit
import FieldSeal.Proofs.Document.Rules
import FieldSeal.Proofs.Document.RoundTrip
import FieldSeal.Proofs.Document.Shape
import FieldSeal.Proofs.Document.Effect
import FieldSeal.Proofs.Json.Spelling
import FieldSeal.Proofs.Json.Fit
import FieldSeal.Proofs.Json.RoundTrip
import FieldSeal.Proofs.Json.Record
import FieldSeal.Proofs.Exchange.FieldSpec
import FieldSeal.Proofs.Exchange.RoundTrip
import FieldSeal.Proofs.Http.RoundTrip
import FieldSeal.Proofs.Session.Binding
import FieldSeal.Proofs.Session.Dispatch
import FieldSeal.Proofs.Unicode.Blank
import FieldSeal.Proofs.Http.Settings
import FieldSeal.Proofs.Document.Replay
import FieldSeal.Proofs.Exchange.Resolve
import FieldSeal.Proofs.Service.Log
import FieldSeal.Proofs.Service.Fault
import FieldSeal.Proofs.Session.Agreement
import FieldSeal.Proofs.Session.Log
import FieldSeal.Proofs.Session.Outcome
import FieldSeal.Proofs.Session.Discretion
import FieldSeal.Proofs.Http.Change
import FieldSeal.Proofs.Pattern.Search
import FieldSeal.Proofs.Pattern.Start
import FieldSeal.Proofs.Unicode.Category
import FieldSeal.Proofs.Masker
import FieldSeal.Proofs.Mask.Catalog
import FieldSeal.Proofs.Session.Plain
import FieldSeal.Proofs.Pattern.Extent
import FieldSeal.Proofs.Mask.Text
import FieldSeal.Proofs.Mask.Accepted
import FieldSeal.Proofs.Session.Masks
import FieldSeal.Proofs.Mask.Visible
import FieldSeal.Proofs.Sealer.Malleable
import FieldSeal.Proofs.Binding
import FieldSeal.Proofs.Service.Terms
import FieldSeal.Proofs.Document.Reorder
import FieldSeal.Proofs.Session.Reorder
import FieldSeal.Proofs.Session.Twice
import FieldSeal.Proofs.Mask.Cache
import FieldSeal.Proofs.Key.Request
import FieldSeal.Proofs.Mask.Position
import FieldSeal.Proofs.Document.PathText
