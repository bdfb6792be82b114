import GraphWire.Config.Error
import GraphWire.Text.Blank

/-!
# Client configuration

A configuration names the server's base URL, the credentials sent with every request (if any),
the timeout of one request in seconds, whether the server is asked to stream its replies, and
the user agent.

* `ClientConfig.default` is what a configuration holds where nothing says otherwise.
* `ClientConfig.Builder` sets some fields and leaves the rest at their defaults.
* `ClientConfig.validate` says whether a client can be built from a configuration: the base URL,
  trimmed, is present and of the `http` or `https` scheme, the timeout is positive, and
  credentials carry a username that is not blank. The checks run in this order and the first
  that fails is the error.
* `ClientConfig.redacted` hides a password for display.
-/

namespace GraphWire

/-- Basic authentication credentials. -/
structure Credentials where
  username : String
  password : String
deriving DecidableEq, Repr

/-- What stands in the place of a hidden password. -/
def Credentials.mask : String := "********"

/-- The credentials as a debug view shows them, with the password always hidden. -/
def Credentials.debugText (c : Credentials) : String :=
  "Credentials \x7b username: " ++ Json.debugString c.username ++ ", password: " ++
    Json.debugString Credentials.mask ++ " \x7d"

/-- The credentials for display: a password that is not empty is hidden. -/
def Credentials.redacted (c : Credentials) : Credentials :=
  if c.password.isEmpty then c else { c with password := Credentials.mask }

/-- The settings a client is built from. -/
structure ClientConfig where
  baseUrl : String
  credentials : Option Credentials
  timeoutSecs : UInt64
  streamResults : Bool
  userAgent : String
deriving DecidableEq, Repr

namespace ClientConfig

/-- The base URL used when none is configured. -/
def defaultBaseUrl : String := "http://localhost:7474/db/data"

/-- The configuration where nothing is set: a local server, no credentials, thirty seconds,
streamed replies. -/
def default : ClientConfig :=
  ⟨defaultBaseUrl, none, 30, true, "graphtx/0.1.0"⟩

/-- The timeout in milliseconds as a 64-bit count, which wraps around for timeouts beyond
about 584 million years. -/
def timeoutMs (c : ClientConfig) : UInt64 := c.timeoutSecs * 1000

/-- Check that a client can be built from the configuration. -/
def validate (c : ClientConfig) : Except ConfigError Unit := do
  let url := Text.trim c.baseUrl
  if url.isEmpty then throw (.invalid "base_url" "must not be empty")
  unless url.startsWith "http://" || url.startsWith "https://" do
    throw (.invalid "base_url" ("'" ++ url ++ "' must start with http:// or https://"))
  if c.timeoutSecs = 0 then throw (.invalid "timeout_secs" "must be greater than zero")
  if let some cr := c.credentials then
    if (Text.trim cr.username).isEmpty then
      throw (.invalid "credentials.username" "must not be empty")

/-- The configuration for display, with its password hidden. -/
def redacted (c : ClientConfig) : ClientConfig :=
  { c with credentials := c.credentials.map Credentials.redacted }

/-- Some fields of a configuration, the others left to their defaults. -/
structure Builder where
  baseUrl : Option String
  credentials : Option Credentials
  timeoutSecs : Option UInt64
  streamResults : Option Bool
  userAgent : Option String

/-- A builder with nothing set. -/
def Builder.empty : Builder := ⟨none, none, none, none, none⟩

/-- The configuration of the fields set, defaults elsewhere. -/
def Builder.build (b : Builder) : ClientConfig :=
  ⟨b.baseUrl.getD default.baseUrl, b.credentials.or default.credentials,
    b.timeoutSecs.getD default.timeoutSecs, b.streamResults.getD default.streamResults,
    b.userAgent.getD default.userAgent⟩

@[simp] theorem build_empty : Builder.empty.build = default := rfl

/-- The serial form: every field under its name, credentials left out when there are none. -/
def toJson (c : ClientConfig) : Json :=
  let creds := match c.credentials with
    | some cr => [("credentials", Json.obj [("username", .string cr.username),
        ("password", .string cr.password)])]
    | none => []
  Json.obj ([("base_url", .string c.baseUrl)] ++ creds ++
    [("timeout_secs", Json.nat c.timeoutSecs.toNat), ("stream_results", .bool c.streamResults),
     ("user_agent", .string c.userAgent)])

end ClientConfig

end GraphWire
