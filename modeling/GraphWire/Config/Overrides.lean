import GraphWire.Config.Basic

/-!
# Overrides from the environment

Four variables override a configuration, looked up by a function so that any environment can
stand in for the process's own. A variable set to the empty text counts as unset.

* `GRAPHTX_URL` replaces the base URL.
* `GRAPHTX_TIMEOUT_SECS`, trimmed, must be a decimal number of seconds below `2^64`, with an
  optional `+`; anything else stops the overrides with an error, after the URL was replaced.
* `GRAPHTX_USERNAME` replaces the credentials, keeping the configured password unless
  `GRAPHTX_PASSWORD` gives another.
* `GRAPHTX_PASSWORD` alone replaces the password of configured credentials, and is ignored when
  there are none.
-/

namespace GraphWire

/-- The variable that overrides the base URL. -/
def envUrl : String := "GRAPHTX_URL"

/-- The variable that overrides the username. -/
def envUsername : String := "GRAPHTX_USERNAME"

/-- The variable that overrides the password. -/
def envPassword : String := "GRAPHTX_PASSWORD"

/-- The variable that overrides the timeout. -/
def envTimeoutSecs : String := "GRAPHTX_TIMEOUT_SECS"

/-- An unsigned 64-bit decimal number: an optional `+`, then at least one digit, and a value
below `2^64`. -/
def parseU64 (s : String) : Option UInt64 :=
  let digits := match s.toList with
    | '+' :: rest => rest
    | cs => cs
  if digits.isEmpty || !digits.all Char.isDigit then none
  else
    let n := digits.foldl (fun n c => n * 10 + (c.toNat - '0'.toNat)) 0
    if n < Nat.pow 2 64 then some (UInt64.ofNat n) else none

/-- The value of a variable as an override reads it: none when it is unset or empty. -/
def envValue (lookup : String → Option String) (key : String) : Option String :=
  (lookup key).filter (fun v => !v.isEmpty)

namespace ClientConfig

/-- Apply the overrides of an environment: the configuration reached, and the error that stopped
them, if one did. -/
def applyOverrides (lookup : String → Option String) (c : ClientConfig) :
    ClientConfig × Option ConfigError :=
  let get := envValue lookup
  let c := match get envUrl with
    | some url => { c with baseUrl := url }
    | none => c
  match readTimeout get with
  | .error e => (c, some e)
  | .ok secs => (applyCredentials get { c with timeoutSecs := secs.getD c.timeoutSecs }, none)
where
  /-- The timeout part of the overrides: no new timeout, a new one, or the error that stops
  them. -/
  readTimeout (get : String → Option String) : Except ConfigError (Option UInt64) :=
    match get envTimeoutSecs with
    | some raw =>
      match parseU64 (Text.trim raw) with
      | none => .error (.invalid "timeout_secs" (envTimeoutSecs ++ "='" ++ raw ++ "' is not a number"))
      | some secs => .ok (some secs)
    | none => .ok none
  /-- The credentials part of the overrides. -/
  applyCredentials (get : String → Option String) (c : ClientConfig) : ClientConfig :=
    let password := get envPassword
    match get envUsername with
    | some username =>
      let password := password.getD ((c.credentials.map (·.password)).getD "")
      { c with credentials := some ⟨username, password⟩ }
    | none =>
      match password, c.credentials with
      | some p, some cr => { c with credentials := some { cr with password := p } }
      | _, _ => c

end ClientConfig

end GraphWire
