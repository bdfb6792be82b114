import GraphWire.Cli.Run
import GraphWire.Proofs.Json.Schema
import Mathlib.Logic.Function.Basic

/-!
# Overrides applied twice

The command line reads its configuration in two layers. Loading applies the environment's
overrides (`ClientConfig.applyOverrides`); then the options `--url`, `--username` and
`--password` are applied once more (`Invocation.applyFlags`), and the command-line reader fills
these options from `GRAPHTX_URL`, `GRAPHTX_USERNAME` and `GRAPHTX_PASSWORD` when they are not
given. The two layers are written separately, but both follow one rule for credentials
(`Credentials.override`): a username replaces the credentials, keeping the configured password
unless a password is given, and a password alone replaces the password of configured
credentials and is ignored without them.

Main statement: when each option holds its variable's value as an override reads it (unset when
empty), the second layer changes nothing, and the command line loads exactly what `Host.load`
loads, the same configuration or an error with the same causes
(`Cli.loadConfig_applies_overrides_once`). It rests on two laws:

* applying the overrides to their own result gives that result back, error included
  (`ClientConfig.applyOverrides_idem`);
* the option layer is the overrides of the same environment with its timeout variable unset
  (`Cli.Invocation.applyFlags_eq_applyOverrides`).

The command-line reader takes a variable's value even when it is empty, so its options hold the
values the overrides read exactly when none of the three variables is set to the empty text.
-/

namespace GraphWire

/-- The rule both layers follow for credentials: a username replaces them, with the given
password, else the configured one, else the empty one; a password alone replaces the password of
configured credentials. -/
def Credentials.override (username password : Option String) (cr : Option Credentials) :
    Option Credentials :=
  match username, cr with
  | some u, cr => some ⟨u, password.getD ((cr.map (·.password)).getD "")⟩
  | none, some cr => some { cr with password := password.getD cr.password }
  | none, none => none

theorem Credentials.override_override (u p : Option String) (cr : Option Credentials) :
    override u p (override u p cr) = override u p cr := by
  cases u <;> cases p <;> cases cr <;> simp [override]

namespace ClientConfig

/-! ## The overrides, field by field -/

theorem applyCredentials_eq (get : String → Option String) (c : ClientConfig) :
    applyOverrides.applyCredentials get c =
      { c with credentials :=
          Credentials.override (get envUsername) (get envPassword) c.credentials } := by
  unfold applyOverrides.applyCredentials
  rcases get envUsername with _ | u <;> rcases get envPassword with _ | p <;>
    rcases c with ⟨_, _ | cr, _, _, _⟩ <;> simp [Credentials.override]

/-- The overrides set each field by its own variable: the base URL, then the timeout, whose
error stops them, then the credentials. -/
theorem applyOverrides_eq (lookup : String → Option String) (c : ClientConfig) :
    c.applyOverrides lookup =
      match applyOverrides.readTimeout (envValue lookup) with
      | .error e => ({ c with baseUrl := (envValue lookup envUrl).getD c.baseUrl }, some e)
      | .ok secs =>
        ({ c with baseUrl := (envValue lookup envUrl).getD c.baseUrl,
                  timeoutSecs := secs.getD c.timeoutSecs,
                  credentials := Credentials.override (envValue lookup envUsername)
                    (envValue lookup envPassword) c.credentials }, none) := by
  unfold applyOverrides
  dsimp only
  rcases envValue lookup envUrl with _ | u <;>
    rcases applyOverrides.readTimeout (envValue lookup) with e | secs <;>
    simp [applyCredentials_eq]

/-- Applying the overrides to their own result gives it back: each field is set to the same
value again, and a timeout that stopped them stops them again. -/
theorem applyOverrides_idem (lookup : String → Option String) (c : ClientConfig) :
    (c.applyOverrides lookup).1.applyOverrides lookup = c.applyOverrides lookup := by
  rw [applyOverrides_eq lookup c]
  rcases ht : applyOverrides.readTimeout (envValue lookup) with e | (_ | secs) <;>
    rcases hu : envValue lookup envUrl with _ | u <;>
    simp [applyOverrides_eq, ht, hu, Credentials.override_override]

/-! ## Unsetting the timeout variable -/

theorem envValue_unset_timeout (lookup : String → Option String) {key : String}
    (hkey : key ≠ envTimeoutSecs) :
    envValue (Function.update lookup envTimeoutSecs none) key = envValue lookup key := by
  simp [envValue, Function.update_of_ne hkey]

theorem readTimeout_unset_timeout (lookup : String → Option String) :
    applyOverrides.readTimeout (envValue (Function.update lookup envTimeoutSecs none)) =
      .ok none := by
  simp [applyOverrides.readTimeout, envValue]

/-- A configuration that the overrides give back unchanged is also left unchanged by the
overrides without the timeout variable. -/
theorem applyOverrides_unset_timeout_of_fixed {lookup : String → Option String}
    {c : ClientConfig} (hfix : c.applyOverrides lookup = (c, none)) :
    (c.applyOverrides (Function.update lookup envTimeoutSecs none)).1 = c := by
  rw [applyOverrides_eq] at hfix
  rcases ht : applyOverrides.readTimeout (envValue lookup) with e | secs
  · rw [ht] at hfix
    simp at hfix
  · rw [ht] at hfix
    -- the fixed point already holds the overridden URL and credentials
    have hc := congrArg Prod.fst hfix
    have hurl : (envValue lookup envUrl).getD c.baseUrl = c.baseUrl :=
      congrArg ClientConfig.baseUrl hc
    have hcr : Credentials.override (envValue lookup envUsername) (envValue lookup envPassword)
        c.credentials = c.credentials := congrArg ClientConfig.credentials hc
    rw [applyOverrides_eq, readTimeout_unset_timeout, envValue_unset_timeout _ (by decide),
      envValue_unset_timeout _ (by decide), envValue_unset_timeout _ (by decide)]
    simp [hurl, hcr]

end ClientConfig

namespace Host

/-- Whatever the files give, a loading without validation ends with the overrides. -/
theorem loadUnvalidated_eq_ok {h : Host} {path : Option String} {c' : ClientConfig}
    (hload : h.loadUnvalidated path = .ok c') :
    ∃ c : ClientConfig, c.applyOverrides h.lookup = (c', none) := by
  have hend : ∃ c, h.applyEnv c = .ok c' := by
    unfold loadUnvalidated at hload
    dsimp only at hload
    rcases path with _ | p
    · by_cases hd : h.has h.defaultPath = true
      · rw [if_pos hd] at hload
        obtain ⟨c, -, hc⟩ := Json.bind_eq_ok_iff.1 hload
        exact ⟨c, hc⟩
      · rw [if_neg hd] at hload
        exact ⟨_, hload⟩
    · obtain ⟨c, -, hc⟩ := Json.bind_eq_ok_iff.1 hload
      exact ⟨c, hc⟩
  obtain ⟨c, hc⟩ := hend
  refine ⟨c, ?_⟩
  unfold applyEnv at hc
  split at hc
  next heq =>
    cases hc
    exact heq
  next => cases hc

end Host

namespace Cli

@[simp] theorem withContext_pure {α ε : Type} (context : String) (chain : ε → List String)
    (a : α) : withContext context chain (pure a) = pure a := rfl

/-! ## The option layer -/

theorem Invocation.applyFlags_eq (inv : Invocation) (c : ClientConfig) :
    inv.applyFlags c =
      { c with baseUrl := inv.url.getD c.baseUrl,
               credentials := Credentials.override inv.username inv.password c.credentials } := by
  unfold Invocation.applyFlags
  rcases inv with ⟨_, _ | u, _ | n, _ | p, _⟩ <;> rcases c with ⟨_, _ | cr, _, _, _⟩ <;>
    simp [Credentials.override]

/-- Options holding their variables' values as the overrides read them are the overrides of
the same environment, the timeout variable unset. -/
theorem Invocation.applyFlags_eq_applyOverrides {inv : Invocation}
    {lookup : String → Option String} (hurl : inv.url = envValue lookup envUrl)
    (huser : inv.username = envValue lookup envUsername)
    (hpass : inv.password = envValue lookup envPassword) (c : ClientConfig) :
    inv.applyFlags c = (c.applyOverrides (Function.update lookup envTimeoutSecs none)).1 := by
  rw [inv.applyFlags_eq, ClientConfig.applyOverrides_eq, ClientConfig.readTimeout_unset_timeout,
    ClientConfig.envValue_unset_timeout _ (by decide),
    ClientConfig.envValue_unset_timeout _ (by decide),
    ClientConfig.envValue_unset_timeout _ (by decide)]
  simp [hurl, huser, hpass]

/-- The command line loads its configuration as `Host.load` does when its options come from the
environment: the options apply the overrides a second time, which changes nothing. -/
theorem loadConfig_applies_overrides_once {host : Host} {inv : Invocation}
    (hurl : inv.url = envValue host.lookup envUrl)
    (huser : inv.username = envValue host.lookup envUsername)
    (hpass : inv.password = envValue host.lookup envPassword) :
    (∀ c : ClientConfig,
      (c.applyOverrides host.lookup).1.applyOverrides host.lookup = c.applyOverrides host.lookup) ∧
    (∀ c : ClientConfig,
      inv.applyFlags c = (c.applyOverrides (Function.update host.lookup envTimeoutSecs none)).1) ∧
    (loadConfig host inv).mapError Failure.causes =
      (host.load inv.config).mapError ConfigError.chain := by
  have idem := ClientConfig.applyOverrides_idem host.lookup
  have agree := Invocation.applyFlags_eq_applyOverrides hurl huser hpass
  refine ⟨idem, agree, ?_⟩
  cases hload : host.loadUnvalidated inv.config with
  | error e =>
    simp only [loadConfig, Host.load, hload]
    rfl
  | ok c' =>
    -- what was loaded is a fixed point of the overrides, hence of the options
    obtain ⟨c, hc⟩ := Host.loadUnvalidated_eq_ok hload
    have hfix : c'.applyOverrides host.lookup = (c', none) := by
      simpa [hc] using idem c
    have hkeep : inv.applyFlags c' = c' :=
      (agree c').trans (ClientConfig.applyOverrides_unset_timeout_of_fixed hfix)
    have hpure : host.loadUnvalidated inv.config = pure c' := hload
    simp only [loadConfig, Host.load, hpure, withContext_pure, pure_bind, hkeep]
    -- both sides are left with the validation alone
    cases hv : c'.validate with
    | error e => rfl
    | ok u => rfl

/-- A URL, a password without a username, and a timeout that only the loading reads. -/
theorem loadConfig_applies_overrides_once_password :
    let host : Host := ⟨[("GRAPHTX_URL", "http://graph:7474/db/data"),
      ("GRAPHTX_PASSWORD", "s3cret"), ("GRAPHTX_TIMEOUT_SECS", " 45 ")], []⟩
    let inv : Invocation :=
      ⟨some "graphtx.toml", some "http://graph:7474/db/data", none, some "s3cret", .showConfig⟩
    (inv.url = envValue host.lookup envUrl ∧ inv.username = envValue host.lookup envUsername ∧
      inv.password = envValue host.lookup envPassword) ∧
    (∀ c : ClientConfig,
      (c.applyOverrides host.lookup).1.applyOverrides host.lookup = c.applyOverrides host.lookup) ∧
    (∀ c : ClientConfig,
      inv.applyFlags c = (c.applyOverrides (Function.update host.lookup envTimeoutSecs none)).1) ∧
    (loadConfig host inv).mapError Failure.causes =
      (host.load inv.config).mapError ConfigError.chain := by
  intro host inv
  have hflags : inv.url = envValue host.lookup envUrl ∧
      inv.username = envValue host.lookup envUsername ∧
      inv.password = envValue host.lookup envPassword := by decide
  exact ⟨hflags, loadConfig_applies_overrides_once hflags.1 hflags.2.1 hflags.2.2⟩

end Cli

end GraphWire
