import Simulcast.Remote.Service
import Simulcast.Settings
import Simulcast.Time

/-!
# An authenticated session

The session holds the tokens and the state of the login backoff; a connection is a session, its
clock and the service it talks to. Each failed login or refresh doubles the time during which no
other login is tried, a success resets it, and every failure is kept as the last error. An operation
returns its result together with the connection it leaves, whether it succeeds or not.
-/

namespace Simulcast

def baseBackoff : Duration := .ofSecs 1

structure Session where
  settings : Settings
  accessToken : Option String := none
  refreshToken : Option String := none
  tokenExpiry : Option Instant := none
  retryCount : Nat := 0
  backoff : Duration := baseBackoff
  lastAttempt : Option Instant := none
  lastError : Option String := none
  deriving DecidableEq

namespace Session

def tokenExpired (s : Session) (now : Instant) : Bool :=
  match s.accessToken, s.tokenExpiry with
  | none, _ => true
  | some _, some expiry => expiry ≤ now
  | some _, none => false

def isAuthenticated (s : Session) (now : Instant) : Bool :=
  s.accessToken.isSome && !s.tokenExpired now

/-- The time before another login may be tried, if it may not be tried now. A clock that went back
counts as no time passed. -/
def throttle? (s : Session) (now : Instant) : Option Duration :=
  if s.retryCount = 0 then none
  else
    match s.lastAttempt with
    | none => none
    | some last =>
      let elapsed := now.since last
      if elapsed < s.backoff then some (s.backoff - elapsed) else none

def recordError (s : Session) (message : String) : Session := { s with lastError := some message }

def clearError (s : Session) : Session := { s with lastError := none }

/-- Counts a failed authentication. The backoff doubles each time. -/
def loginFailed (s : Session) (now : Instant) : Session :=
  { s with
    retryCount := countUp s.retryCount
    backoff := s.backoff.double
    lastAttempt := some now }

/-- Takes over new tokens; without a new refresh token the old one stays. An expiry may be announced
for any second, also for one that a clock does not reach. -/
def storeTokens (s : Session) (now : Instant) (tokens : Tokens) : Session :=
  { s with
    accessToken := some tokens.access
    refreshToken := tokens.refresh.or s.refreshToken
    tokenExpiry := some (match tokens.expiresAt with
      | some secs => .ofUnix secs
      | none => now.after s.settings.tokenLifetime)
    retryCount := 0
    backoff := baseBackoff
    lastError := none }

def forgetTokens (s : Session) : Session :=
  { s with accessToken := none, refreshToken := none, tokenExpiry := none }

def dropAccess (s : Session) : Session := { s with accessToken := none, tokenExpiry := none }

end Session

structure Connection (σ : Type) where
  session : Session
  clock : Clock
  remote : σ

namespace Connection

/-- What an operation comes back with, and the connection afterwards. -/
structure Outcome (σ α : Type) where
  result : Except RemoteError α
  connection : Connection σ

variable {σ : Type}

def now (c : Connection σ) : Instant := c.clock.now

def withSession (c : Connection σ) (session : Session) : Connection σ := { c with session }

def sleep (c : Connection σ) (d : Duration) : Connection σ := { c with clock := c.clock.sleep d }

def logout (c : Connection σ) : Connection σ := c.withSession c.session.forgetTokens

/-- Whether a login is refused for now; if so the last error says for how long. -/
def isLoginThrottled (c : Connection σ) : Bool × Connection σ :=
  match c.session.throttle? c.now with
  | some remaining =>
    (true, c.withSession (c.session.recordError (RemoteError.throttled remaining).message))
  | none => (false, c)

def loginFailed (c : Connection σ) : Connection σ := c.withSession (c.session.loginFailed c.now)

variable [Service σ]

def ask (c : Connection σ) (call : Call) : Except RemoteError call.Answer × Connection σ :=
  match Service.answer c.remote call with
  | (reply, remote) => (reply, { c with remote })

def acceptTokens (c : Connection σ) (tokens : Tokens) : Connection σ :=
  c.withSession (c.session.storeTokens c.now tokens)

def login (c : Connection σ) : Outcome σ Unit :=
  match c.session.throttle? c.now with
  | some remaining =>
    let error := RemoteError.throttled remaining
    ⟨.error error, c.withSession (c.session.recordError error.message)⟩
  | none =>
    if c.session.settings.hasCredentials then
      match c.ask (.login c.session.settings.username c.session.settings.password) with
      | (.ok tokens, c) => ⟨.ok (), c.acceptTokens tokens⟩
      | (.error error, c) =>
        let session := c.session.loginFailed c.now
        ⟨.error error, c.withSession (session.recordError ("Login failed: " ++ error.message))⟩
    else
      ⟨.error .missingCredentials,
       c.withSession (c.session.recordError "Missing Restreamer credentials")⟩

def dropRefused (session : Session) (error : RemoteError) : Session :=
  if error.isAuth then { session with refreshToken := none } else session

/-- Exchanges the refresh token for new tokens. A failure counts like that of a login. -/
def refresh (c : Connection σ) : Outcome σ Unit :=
  match c.session.refreshToken with
  | none =>
    ⟨.error .noRefreshToken, c.withSession (c.session.recordError "No refresh token available")⟩
  | some token =>
    match c.ask (.refresh token) with
    | (.ok tokens, c) => ⟨.ok (), c.acceptTokens tokens⟩
    | (.error error, c) =>
      let session := dropRefused (c.session.loginFailed c.now) error
      ⟨.error error,
       c.withSession (session.recordError ("Token refresh failed: " ++ error.message))⟩

def forceLogin (c : Connection σ) : Outcome σ Unit := c.logout.login

/-- Renews an access token that has expired: by a refresh when both tokens are held, and by a login
when that is not possible or fails. -/
def renew (c : Connection σ) : Outcome σ Unit :=
  if c.session.tokenExpired c.now then
    if c.session.accessToken.isSome && c.session.refreshToken.isSome then
      match c.refresh with
      | ⟨.ok _, c⟩ => ⟨.ok (), c⟩
      | ⟨.error _, c⟩ => c.login
    else c.login
  else ⟨.ok (), c⟩

def authenticate (c : Connection σ) : Outcome σ String :=
  match c.renew with
  | ⟨.error error, c⟩ => ⟨.error error, c⟩
  | ⟨.ok _, c⟩ =>
    match c.session.accessToken with
    | some token => ⟨.ok token, c⟩
    | none => ⟨.error (.unauthorized "no access token"), c⟩

/-- A refused access token is forgotten, and the failure of a request is kept. -/
def noteFailure (c : Connection σ) (request : Request) (error : RemoteError) : Connection σ :=
  let session := if error.isAuth then c.session.dropAccess else c.session
  c.withSession (session.recordError (request.label ++ " failed: " ++ error.message))

def perform (c : Connection σ) (request : Request) : Outcome σ request.Answer :=
  match c.authenticate with
  | ⟨.error error, c⟩ => ⟨.error error, c⟩
  | ⟨.ok token, c⟩ =>
    match c.ask (.perform token request) with
    | (.ok value, c) => ⟨.ok value, c⟩
    | (.error error, c) => ⟨.error error, c.noteFailure request error⟩

def findProcess (c : Connection σ) (reference : String) : Outcome σ (Option ProcessInfo) :=
  match c.perform .listProcesses with
  | ⟨.ok processes, c⟩ => ⟨.ok (processes.find? (·.reference == reference)), c⟩
  | ⟨.error error, c⟩ => ⟨.error error, c⟩

end Connection

end Simulcast
