import PatronGateway.Cache.Stats
import PatronGateway.Main
import PatronGateway.Proofs.Backend.ServiceToken
import PatronGateway.Proofs.Gateway.World
import PatronGateway.Proofs.Token.Issuer
import PatronGateway.Proofs.Token.Soundness
import PatronGateway.Proofs.Cache.Insertions
import PatronGateway.Proofs.Cache.Identity
import PatronGateway.Proofs.Patron.History
import PatronGateway.Proofs.Patron.Provenance
import PatronGateway.Proofs.Hold.Protocol
import PatronGateway.Proofs.Token.Transparency
import PatronGateway.Proofs.Token.Declaration
import PatronGateway.Proofs.Patron.Transparency
import PatronGateway.Proofs.Token.Upstream
import PatronGateway.Proofs.Http.Direct
import PatronGateway.Proofs.Backend.Exchange
import PatronGateway.Proofs.Gateway.Plan
import PatronGateway.Proofs.Gateway.Calls
import PatronGateway.Proofs.Gateway.Serving
import PatronGateway.Proofs.Cache.Order
import PatronGateway.Proofs.Cache.Pairs
import PatronGateway.Proofs.Token.Realm
import PatronGateway.Proofs.Http.Final
import PatronGateway.Proofs.Text.Ascii
import PatronGateway.Proofs.Backend.Reply
import PatronGateway.Proofs.Gateway.Relay
import PatronGateway.Proofs.Cache.Content
import PatronGateway.Proofs.Cache.Departures
import PatronGateway.Proofs.Patron.Effect
import PatronGateway.Proofs.Token.Effect
import PatronGateway.Proofs.Url.Path
import PatronGateway.Proofs.Url.Percent
import PatronGateway.Proofs.Url.Segments
import PatronGateway.Proofs.Token.Certs
import PatronGateway.Proofs.Text.Utf8
import PatronGateway.Proofs.Url.Form
import PatronGateway.Proofs.Backend.Search
import PatronGateway.Proofs.Gateway.PatronPath
import PatronGateway.Proofs.Text.Uuid
import PatronGateway.Proofs.Hold.Validation
import PatronGateway.Proofs.Hold.Addressing
import PatronGateway.Proofs.Json.RoundTrip
import PatronGateway.Proofs.Time.Rfc3339
import PatronGateway.Proofs.Hold.RoundTrip
import PatronGateway.Proofs.Text.Base64Url
import PatronGateway.Proofs.Url.Spelling
import PatronGateway.Proofs.Access.ApiKey
import PatronGateway.Proofs.Gateway.AccountQuery
import PatronGateway.Proofs.Gateway.Bodies
import PatronGateway.Proofs.Text.Size
import PatronGateway.Proofs.Http.Charset
import PatronGateway.Proofs.Token.SizeLimit
import PatronGateway.Proofs.Config.RoundTrip
import PatronGateway.Proofs.Token.Claims
import PatronGateway.Proofs.Config.Override
