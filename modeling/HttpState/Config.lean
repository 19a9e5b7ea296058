import HttpState.Jar.Persistent

/-!
# Configuration of a cookie manager

Where the jar of normal browsing keeps its cookies and when it writes them, how many cookies the
jars hold, and how many removals run at the same time. A manager takes only a valid configuration.
-/

namespace HttpState

/-- The configuration of a cookie manager. -/
structure Config where
  acceptCookies : Bool := true
  /-- Where normal browsing keeps its cookies; nowhere, if there is no store. -/
  store : Option StorePlace := none
  writeMode : WriteMode := .onFlush
  /-- How many removals may run at the same time. -/
  workers : Nat := 1
  maxPerHost : Nat := 50
  maxTotal : Nat := 3000
  deriving DecidableEq, Repr, Inhabited

/-- What is wrong with a configuration. -/
inductive ConfigError where
  | noWorkers
  | noCookiesPerHost
  | hostLimitAboveTotal (perHost total : Nat)
  deriving DecidableEq, Repr

/-- The wording of an error. -/
def ConfigError.message : ConfigError → String
  | .noWorkers => "worker_threads must be at least 1"
  | .noCookiesPerHost => "max_cookies_per_host must be at least 1"
  | .hostLimitAboveTotal h t =>
    "max_cookies_per_host (" ++ toString h ++ ") > max_cookies_total (" ++ toString t ++ ")"

namespace Config

/-- Checks a configuration. -/
def validate (c : Config) : Except ConfigError Unit :=
  if c.workers = 0 then .error .noWorkers
  else if c.maxPerHost = 0 then .error .noCookiesPerHost
  else if c.maxPerHost > c.maxTotal then .error (.hostLimitAboveTotal c.maxPerHost c.maxTotal)
  else .ok ()

/-- The limits of the jars. -/
def limits (c : Config) : Limits := .of c.maxPerHost c.maxTotal

/-- An empty jar with the limits of the configuration. -/
def emptyJar (c : Config) : Jar := .empty c.limits

/-- A configuration is accepted exactly when every number is at least one and the whole jar holds at
    least one full site. -/
theorem validate_eq_ok_iff (c : Config) :
    c.validate = .ok () ↔ 1 ≤ c.workers ∧ 1 ≤ c.maxPerHost ∧ c.maxPerHost ≤ c.maxTotal := by
  unfold validate
  split
  · simp_all
  · split
    · simp_all
    · split
      · simp; omega
      · simp; omega

end Config

end HttpState
