import Simulcast.Proofs.Channel.Reachable
import Simulcast.Proofs.Remote.Answering
import Simulcast.Proofs.Remote.Served
import Simulcast.Proofs.Session.Window

/-!
# When a refresh is refused

A refresh that is refused counts as a failed login, and so it holds off the very login that comes in
its place. The refresh token is forgotten then, and once the backoff is over the next request logs
in and is served as over a fresh connection.
-/

namespace Simulcast

theorem Session.tokenExpired_mono {s : Session} {now later : Instant} (hle : now ≤ later)
    (h : s.tokenExpired now = true) : s.tokenExpired later = true := by
  rw [Instant.le_def] at hle
  unfold tokenExpired at h ⊢
  split at h
  · rfl
  · simp only [decide_eq_true_eq, Instant.le_def] at h ⊢
    omega
  · cases h

def Session.heldOff (s : Session) (now : Instant) : Session :=
  let failed := s.loginFailed now
  { failed with refreshToken := none }.recordError (RemoteError.throttled failed.backoff).message

namespace Connection

/-- What is asked of the service once there is a good token. -/
def Operation.IsRequest : Operation → Prop
  | .perform _ | .findProcess _ => True
  | _ => False

section Requests

variable {σ : Type} [Service σ] {c c' : Connection σ}

theorem Operation.IsRequest.ne_countFailure {op : Operation} (h : op.IsRequest) :
    op ≠ .countFailure := by
  rintro rfl
  exact h

theorem Operation.IsRequest.run_connection {op : Operation} (h : op.IsRequest)
    (c : Connection σ) :
    ∃ request, (op.run c).connection = (c.perform request).connection := by
  cases op with
  | perform request => exact ⟨request, rfl⟩
  | findProcess reference => exact ⟨.listProcesses, findProcess_connection reference⟩
  | _ => exact h.elim

theorem Operation.IsRequest.authentication? {op : Operation} (h : op.IsRequest) (s : Session)
    (now : Instant) : op.authentication? s now = s.renewal? now := by
  cases op with
  | perform request => rfl
  | findProcess reference => rfl
  | _ => exact h.elim

theorem Operation.IsRequest.run_of_renew {op : Operation} (h : op.IsRequest) {error : RemoteError}
    (hrenew : c.renew = ⟨.error error, c'⟩) : op.run c = ⟨.error error, c'⟩ := by
  have hperform (request : Request) : c.perform request = ⟨.error error, c'⟩ := by
    simp only [Connection.perform, Connection.authenticate, hrenew]
  cases op with
  | perform request =>
    change (c.perform request).done = _
    rw [hperform]
    rfl
  | findProcess reference =>
    change (c.findProcess reference).done = _
    simp only [Connection.findProcess, hperform]
    rfl
  | _ => exact h.elim

/-- Whatever the service, the login that comes in the place of a refused refresh is held off. -/
theorem renew_refused {token : String} (haccess : c.session.accessToken.isSome = true)
    (hexpired : c.session.tokenExpired c.now = true)
    (hheld : c.session.refreshToken = some token) (hwindow : 0 < c.session.backoff.nanos)
    {error : RemoteError} (hauth : error.isAuth = true) {remote : σ}
    (hanswer : Service.answer c.remote (.refresh token) = (.error error, remote)) :
    c.renew = ⟨.error (.throttled c.session.backoff.double),
      { c with session := c.session.heldOff c.now, remote }⟩ := by
  have hask : c.ask (.refresh token) = (.error error, { c with remote }) := by
    simp only [ask, hanswer]
  let refused : Connection σ :=
    { c with
      session := { c.session.loginFailed c.now with refreshToken := none }.recordError
        ("Token refresh failed: " ++ error.message)
      remote }
  have hrefresh : c.refresh = ⟨.error error, refused⟩ := by
    simp only [refresh, hheld, hask, dropRefused, hauth, if_true]
    rfl
  have hthrottle : refused.session.throttle? refused.now = some c.session.backoff.double :=
    Session.throttle?_of_failed hwindow rfl
  simp only [renew, hexpired, haccess, hheld, Option.isSome_some, Bool.and_self, if_true,
    hrefresh, login, hthrottle]
  rfl

end Requests

/-- The access token of the connection has expired, and the service knows the account but not the
refresh token. No login failed of late. -/
structure Lapsed (c : Connection Simulated) (token : String) : Prop where
  welcome : Welcome c
  unthrottled : c.session.retryCount = 0
  access : c.session.accessToken.isSome = true
  expired : c.session.tokenExpired c.now = true
  held : c.session.refreshToken = some token
  unknown : token ∉ c.remote.refreshTokens

variable {c : Connection Simulated} {token : String}

theorem Lapsed.backoff (h : Lapsed c token) (hreached : Session.Reachable Simulated c.session) :
    c.session.backoff = baseBackoff := by
  have hwindow : c.session.backoff = windowAfter c.session.retryCount := hreached.doubled.window
  rw [hwindow, h.unthrottled]
  rfl

/-- The connection after the refresh was refused. -/
def lapse (c : Connection Simulated) : Connection Simulated :=
  { c with
    session := c.session.heldOff c.now
    remote := c.remote.counted .refresh }

theorem Lapsed.run_eq (h : Lapsed c token) (hreached : Session.Reachable Simulated c.session)
    {op : Operation} (hop : op.IsRequest) :
    op.run c = ⟨.error (.throttled (.ofSecs 2)), c.lapse⟩ := by
  have hbackoff := h.backoff hreached
  have hwindow : 0 < c.session.backoff.nanos := hreached.doubled.positive
  have hanswer := Simulated.answer_refresh_unknown (h.welcome.failures .refresh) h.unknown
  have hrenew := renew_refused h.access h.expired h.held hwindow rfl hanswer
  rw [hbackoff] at hrenew
  exact hop.run_of_renew hrenew

theorem Lapsed.attempts_eq (h : Lapsed c token) (hreached : Session.Reachable Simulated c.session)
    {op : Operation} (hop : op.IsRequest) : op.attempts c = [⟨.refresh token, false⟩] := by
  refine op.attempts_eq_singleton hop.ne_countFailure hreached.doubled.positive ?_ ?_
  · rw [hop.authentication?, Session.renewal?, if_pos h.expired, h.access, h.held]
    rfl
  · rw [h.run_eq hreached hop]
    refine ⟨fun hzero => ?_, nofun⟩
    exact absurd hzero (countUp_ne_zero c.session.retryCount)

/-- A connection whose access token has expired, without a refresh token and with nothing to wait
for: a request has to log in, and the login is granted. -/
structure LoggedOut (c : Connection Simulated) : Prop where
  welcome : Welcome c
  expired : c.session.tokenExpired c.now = true
  none_held : c.session.refreshToken = none
  unthrottled : c.session.throttle? c.now = none

namespace LoggedOut

theorem renew_renews (h : LoggedOut c) :
    c.renew.result = .ok () ∧ c.Renewed c.renew.connection := by
  have hrenew : c.renew = c.login := by
    simp only [renew, h.expired, h.none_held, Option.isSome_none, Bool.and_false, if_true,
      Bool.false_eq_true, if_false]
  rw [hrenew]
  exact login_welcomed h.welcome h.unthrottled

theorem attempts_eq (h : LoggedOut c) (hwindow : 0 < c.session.backoff.nanos) {op : Operation}
    (hop : op.IsRequest) :
    op.attempts c =
      [⟨.login c.session.settings.username c.session.settings.password, true⟩] := by
  refine op.attempts_eq_singleton hop.ne_countFailure hwindow ?_ ?_
  · rw [hop.authentication?, Session.renewal?, if_pos h.expired, h.none_held,
      Option.isSome_none, Bool.and_false, if_neg Bool.false_ne_true]
    exact if_pos ⟨h.unthrottled, h.welcome.credentials⟩
  · obtain ⟨request, hrequest⟩ := hop.run_connection c
    obtain ⟨hok, hrenewed⟩ := h.renew_renews
    rw [hrequest]
    exact ⟨fun _ => rfl, fun _ => (perform_renewed hok hrenewed request).1.unthrottled⟩

/-- The answers are those over a connection that just logged in for the first time. -/
theorem perform_result (h : LoggedOut c) (request : Request) :
    (c.perform request).result =
      ((fresh c.session.settings c.clock c.remote).login.connection.perform request).result := by
  obtain ⟨hok, hrenewed⟩ := h.renew_renews
  obtain ⟨_, s, hs, hresult, _⟩ := perform_renewed hok hrenewed request
  have hwelcome : Welcome (fresh c.session.settings c.clock c.remote) :=
    ⟨h.welcome.failures, h.welcome.credentials, h.welcome.username, h.welcome.password⟩
  obtain ⟨_, hlogged⟩ := login_welcomed hwelcome (if_pos rfl)
  obtain ⟨_, t, ht, hanew, _⟩ := perform_answered hlogged.answering request
  rw [hresult, hanew]
  exact (ht.symm.trans (hlogged.alike.symm.trans hs)).serve_result request

theorem findProcess_answer (h : LoggedOut c) (reference : String) :
    (c.findProcess reference).result =
      ((fresh c.session.settings c.clock c.remote).login.connection.findProcess
        reference).result := by
  rw [findProcess_result, findProcess_result, h.perform_result]

end LoggedOut

theorem Lapsed.loggedOut (h : Lapsed c token) (hreached : Session.Reachable Simulated c.session)
    {clock : Clock} (hwaited : Duration.ofSecs 2 ≤ clock.now.since c.now) :
    LoggedOut { c.lapse with clock } where
  welcome := ⟨h.welcome.failures, h.welcome.credentials, h.welcome.username, h.welcome.password⟩
  expired := by
    have hlater : c.now ≤ clock.now := by
      simp only [Duration.le_def, Duration.ofSecs, Instant.since] at hwaited
      rw [Instant.le_def]
      omega
    exact Session.tokenExpired_mono hlater h.expired
  none_held := rfl
  unthrottled := by
    have hover : ¬ clock.now.since c.now < c.session.backoff.double := by
      rw [h.backoff hreached]
      exact Nat.not_lt.mpr hwaited
    have hfailed : c.lapse.session.retryCount ≠ 0 := countUp_ne_zero c.session.retryCount
    exact (Session.throttle?_of_lastAttempt hfailed rfl clock.now).trans (if_neg hover)

/-- When the access token of a session has expired and the service refuses its refresh token, a
request sends the refresh and no login, and ends in two seconds of waiting. Once they are over, the
next request logs in with the credentials and is answered as over a connection that just logged
in. -/
theorem refused_refresh_delays_login (c : Connection Simulated) {token : String}
    (h : Lapsed c token) (hreached : Session.Reachable Simulated c.session) (op : Operation)
    (hop : op.IsRequest) :
    op.attempts c = [⟨.refresh token, false⟩] ∧
      (op.run c).result = .error (.throttled (.ofSecs 2)) ∧
      ∀ clock : Clock, .ofSecs 2 ≤ clock.now.since c.now →
        let later : Connection Simulated := { (op.run c).connection with clock }
        let anew := (fresh c.session.settings clock later.remote).login.connection
        (∀ next : Operation, next.IsRequest → next.attempts later =
            [⟨.login c.session.settings.username c.session.settings.password, true⟩]) ∧
          (∀ request, (later.perform request).result = (anew.perform request).result) ∧
          ∀ reference,
            (later.findProcess reference).result = (anew.findProcess reference).result := by
  have hrun := h.run_eq hreached hop
  refine ⟨h.attempts_eq hreached hop, by rw [hrun], fun clock hwaited => ?_⟩
  have hwindow : 0 < (op.run c).connection.session.backoff.nanos :=
    (Session.Reachable.run op c hreached).doubled.positive
  rw [hrun] at hwindow ⊢
  have hlogged := h.loggedOut hreached hwaited
  exact ⟨fun _ hnext => hlogged.attempts_eq hwindow hnext, hlogged.perform_result,
    hlogged.findProcess_answer⟩

/-- An hour after a login, when its access token expires and the service has forgotten the refresh
token. -/
def forgotten : Connection Simulated :=
  let c := (Operation.run .login spelt).connection
  { c with
    clock := c.clock.advance (.ofSecs 3600)
    remote := c.remote.revokeRefresh }

theorem forgotten_lapsed : Lapsed forgotten "refresh-1" where
  welcome := ⟨fun _ => rfl, by decide, rfl, rfl⟩
  unthrottled := rfl
  access := rfl
  expired := by decide
  held := by decide
  unknown := List.not_mem_nil

theorem forgotten_reachable : Session.Reachable Simulated forgotten.session :=
  .run .login spelt (.new _)

/-- The list of processes is asked for, and asked for again two seconds later. -/
theorem refused_refresh_delays_login_forgotten :
    let op := Operation.perform .listProcesses
    let clock := forgotten.clock.advance (.ofSecs 2)
    let later : Connection Simulated := { (op.run forgotten).connection with clock }
    Lapsed forgotten "refresh-1" ∧ Session.Reachable Simulated forgotten.session ∧
      op.IsRequest ∧ Duration.ofSecs 2 ≤ clock.now.since forgotten.now ∧
      op.attempts forgotten = [⟨.refresh "refresh-1", false⟩] ∧
      (op.run forgotten).result = .error (.throttled (.ofSecs 2)) ∧
      op.attempts later = [⟨.login "user" "secret", true⟩] := by
  intro op clock later
  have hwaited : Duration.ofSecs 2 ≤ clock.now.since forgotten.now := by decide
  obtain ⟨hsent, hthrottled, hlater⟩ :=
    refused_refresh_delays_login forgotten forgotten_lapsed forgotten_reachable op trivial
  obtain ⟨hlogin, _, _⟩ := hlater clock hwaited
  exact ⟨forgotten_lapsed, forgotten_reachable, trivial, hwaited, hsent, hthrottled,
    hlogin op trivial⟩

/-- The list of processes is refused there although nothing failed before and the credentials are
good: no login is sent, while over a connection that just logged in the list is answered. -/
theorem login_held_off_by_refused_refresh :
    Lapsed forgotten "refresh-1" ∧ Session.Reachable Simulated forgotten.session ∧
      (Operation.attempts (.perform .listProcesses) forgotten).map (·.call) =
        [.refresh "refresh-1"] ∧
      (forgotten.perform .listProcesses).result = .error (.throttled (.ofSecs 2)) ∧
      ((fresh forgotten.session.settings forgotten.clock forgotten.remote).login.connection.perform
        .listProcesses).result = .ok [] :=
  ⟨forgotten_lapsed, forgotten_reachable, by decide, by decide, by decide⟩

end Connection

end Simulcast
