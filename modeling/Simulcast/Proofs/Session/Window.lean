import Simulcast.Proofs.Session.Backoff

/-!
# Inside the backoff window

A run of a session is followed together with the last login or refresh it sent. After one that
failed no login is sent until the backoff is over. A refresh does not wait, though: it is sent
whenever an access token that has expired is still held together with a refresh token.
-/

namespace Simulcast

/-- A login or refresh that was sent, and the backoff it left. -/
structure Attempt where
  time : Instant
  granted : Bool
  backoff : Duration
  deriving DecidableEq

variable {σ : Type} [Service σ]

namespace Connection.Operation

/-- The last login or refresh so far, when the operation comes after `last`. -/
def lastAttempt (op : Operation) (c : Connection σ) (last : Option Attempt) : Option Attempt :=
  match (op.attempts c).getLast? with
  | none => last
  | some a => some ⟨c.now, a.granted, (op.run c).connection.session.backoff⟩

end Connection.Operation

variable (σ) in
/-- A session that came about by operations, and the last login or refresh that it sent. -/
inductive Session.Attempted : Option Attempt → Session → Prop where
  | new (settings : Settings) : Attempted none { settings }
  | run (op : Connection.Operation) (hop : op ≠ .countFailure) (c : Connection σ)
      {last : Option Attempt} :
      Attempted last c.session →
      Attempted (op.lastAttempt c last) (op.run c).connection.session

namespace Session

variable {s : Session} {last : Option Attempt}

theorem Attempted.reachable (h : Attempted σ last s) : Reachable σ s := by
  induction h with
  | new settings => exact .new settings
  | run op _ c _ ih => exact .run op c ih

/-- The restraint is the one that a failed attempt left. -/
structure RestrainedBy (s : Session) (a : Attempt) : Prop where
  failed : 0 < s.retryCount
  window : s.backoff = a.backoff
  since : s.lastAttempt = some a.time

theorem RestrainedBy.of_restraint {s s' : Session} {a : Attempt} (h : s.RestrainedBy a)
    (hrestraint : s'.restraint = s.restraint) : s'.RestrainedBy a := by
  obtain ⟨hcount, hwindow, hlast⟩ := Restraint.mk.inj hrestraint
  exact ⟨hcount ▸ h.failed, hwindow.trans h.window, hlast.trans h.since⟩

theorem RestrainedBy.login?_eq_none {a : Attempt} (h : s.RestrainedBy a) {now : Instant}
    (hwithin : now.since a.time < a.backoff) : s.login? now = none := by
  have hthrottled : s.throttle? now = some (a.backoff - now.since a.time) := by
    rw [throttle?_of_lastAttempt (Nat.ne_of_gt h.failed) h.since, h.window, if_pos hwithin]
  refine if_neg fun hready => ?_
  cases hthrottled.symm.trans hready.1

theorem restrainedBy_run {c : Connection σ} (hdoubled : c.session.restraint.Doubled)
    (ih : ∀ a, last = some a → a.granted = false → c.session.RestrainedBy a)
    {op : Connection.Operation} (hop : op ≠ .countFailure) {a : Attempt}
    (ha : op.lastAttempt c last = some a) (hfailed : a.granted = false) :
    (op.run c).connection.session.RestrainedBy a := by
  have hrestraint := op.run_restraint hop hdoubled.positive
  unfold Connection.Operation.lastAttempt at ha
  rcases op.attempts_cases hdoubled.positive with hnone | ⟨sent, hsent⟩
  · rw [hnone] at ha hrestraint
    exact (ih a ha hfailed).of_restraint hrestraint
  · rw [hsent] at ha hrestraint
    obtain rfl := Option.some.inj ha
    have hafter : (op.run c).connection.session.restraint =
        c.session.restraint.after c.now false := by
      rw [hrestraint, ← hfailed]
      rfl
    have hcount : (op.run c).connection.session.retryCount = countUp c.session.retryCount :=
      congrArg Restraint.failures hafter
    exact ⟨hcount ▸ countUp_pos c.session.retryCount, rfl, congrArg Restraint.since hafter⟩

theorem Attempted.restrainedBy (h : Attempted σ last s) {a : Attempt} (ha : last = some a)
    (hfailed : a.granted = false) : s.RestrainedBy a := by
  induction h generalizing a with
  | new settings => cases ha
  | run op hop c h ih =>
    exact restrainedBy_run h.reachable.doubled (fun a ha hfailed => ih ha hfailed) hop ha hfailed

end Session

namespace Connection

/-- The operation is a refresh, or comes to one because of an access token that has expired. -/
def Operation.renews (op : Operation) (s : Session) (now : Instant) : Bool :=
  match op with
  | .refresh => true
  | .authenticate | .perform _ | .findProcess _ => s.accessToken.isSome && s.tokenExpired now
  | .login | .forceLogin | .logout | .countFailure | .checkThrottle | .clearError => false

/-- While no login may be sent, a session that renews its tokens does so by a refresh. -/
theorem Operation.authentication?_of_no_login (op : Operation) {s : Session} {now : Instant}
    (h : s.login? now = none) :
    op.authentication? s now =
      if op.renews s now then s.refreshToken.map Call.refresh else none := by
  have hrenewal : s.renewal? now =
      if (s.accessToken.isSome && s.tokenExpired now) = true then s.refreshToken.map Call.refresh
      else none := by
    unfold Session.renewal?
    rw [h]
    cases s.tokenExpired now <;> cases s.accessToken <;> cases s.refreshToken <;> rfl
  cases op with
  | login | forceLogin => exact h
  | refresh | logout | countFailure | checkThrottle | clearError => rfl
  | authenticate | perform request | findProcess reference => exact hrenewal

/-- When the last login or refresh of a session failed, and the backoff it left is not over, then an
operation sends no login; and it sends a refresh exactly when it renews the tokens and a refresh
token is held. -/
theorem refresh_within_window {last : Option Attempt} (c : Connection σ)
    (h : Session.Attempted σ last c.session) {a : Attempt} (ha : last = some a)
    (hfailed : a.granted = false) (hwithin : c.now.since a.time < a.backoff) (op : Operation) :
    (op.attempts c).map (·.call) =
      if op.renews c.session c.now then (c.session.refreshToken.map Call.refresh).toList
      else [] := by
  have hlogin : c.session.login? c.now = none := (h.restrainedBy ha hfailed).login?_eq_none hwithin
  rw [op.attempts_calls h.reachable.doubled.positive, op.authentication?_of_no_login hlogin]
  split_ifs <;> rfl

def spelt : Connection Simulated where
  session := { settings :=
    { host := "localhost", port := 0, username := "user", password := "secret" } }
  clock := .startingAt 0
  remote := { username := "user", password := "secret" }

def hourLater : Connection Simulated :=
  let c := (Operation.run .login spelt).connection
  { c with
    clock := c.clock.advance (.ofSecs 3600)
    remote := c.remote.failNext .refresh 1 }

def unrefreshed : Connection Simulated :=
  (Operation.run (.perform .listProcesses) hourLater).connection

theorem unrefreshed_attempted :
    Session.Attempted Simulated (some ⟨.ofUnix 3600, false, .ofSecs 2⟩) unrefreshed.session := by
  have hnew : Session.Attempted Simulated none spelt.session := .new _
  have hlogged : Session.Attempted Simulated (Operation.login.lastAttempt spelt none)
      hourLater.session := .run .login nofun spelt hnew
  have hlast : (Operation.perform .listProcesses).lastAttempt hourLater
      (Operation.login.lastAttempt spelt none) = some ⟨.ofUnix 3600, false, .ofSecs 2⟩ := by
    decide
  rw [← hlast]
  exact .run (.perform .listProcesses) nofun hourLater hlogged

/-- A login is held off then, and the next request sends another refresh. -/
theorem refresh_within_window_unrefreshed :
    let last : Attempt := ⟨.ofUnix 3600, false, .ofSecs 2⟩
    Session.Attempted Simulated (some last) unrefreshed.session ∧
      unrefreshed.now.since last.time < last.backoff ∧
      (Operation.attempts .login unrefreshed).map (·.call) = [] ∧
      ((Operation.perform .listProcesses).attempts unrefreshed).map (·.call) =
        [.refresh "refresh-1"] := by
  have hwithin : unrefreshed.now.since (.ofUnix 3600) < .ofSecs 2 := by decide
  have hsent := refresh_within_window unrefreshed unrefreshed_attempted rfl rfl hwithin
  exact ⟨unrefreshed_attempted, hwithin, hsent .login,
    (hsent (.perform .listProcesses)).trans (by decide)⟩

/-- At the very moment at which a refresh failed and left a backoff of two seconds, the next request
sends a refresh again, and the service grants it. -/
theorem refresh_granted_within_window :
    let last : Attempt := ⟨.ofUnix 3600, false, .ofSecs 2⟩
    Session.Attempted Simulated (some last) unrefreshed.session ∧
      last.time ≤ unrefreshed.now ∧ unrefreshed.now.since last.time < last.backoff ∧
      (Operation.perform .listProcesses).attempts unrefreshed = [⟨.refresh "refresh-1", true⟩] :=
  ⟨unrefreshed_attempted, by decide, by decide, by decide⟩

end Connection

end Simulcast
