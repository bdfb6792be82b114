import GraphWire.Client.Session
import GraphWire.Config.Basic

/-!
# Building a client from a configuration

A client is built only from a configuration that validates and whose user agent can stand in an
HTTP header: every byte of it a tab, a visible character, a space, or part of a character beyond
ASCII. The client's base URL is the configured one.
-/

namespace GraphWire

/-- Whether a byte may stand in an HTTP header value. -/
def isHeaderByte (b : UInt8) : Bool := (b ≥ 32 && b != 127) || b == 9

/-- Whether a text may be an HTTP header value. -/
def isHeaderValue (s : String) : Bool := s.toUTF8.toList.all isHeaderByte

namespace Client

/-- A client of a configuration over a wire. -/
def ofConfig (c : ClientConfig) (wire : Wire) : Except ClientError Client := do
  c.validate.mapError ClientError.config
  unless isHeaderValue c.userAgent do throw (.transport (.invalidHeader "user-agent"))
  return ofWire c.baseUrl wire

/-- A client of a base URL with the default settings. -/
def ofBaseUrl (url : String) (wire : Wire) : Except ClientError Client :=
  ofConfig { ClientConfig.default with baseUrl := url } wire

/-- A client of a base URL that sends credentials. -/
def withCredentials (url username password : String) (wire : Wire) : Except ClientError Client :=
  ofConfig { ClientConfig.default with baseUrl := url, credentials := some ⟨username, password⟩ } wire

end Client

end GraphWire
