import Mathlib.Control.Monad.Basic
import Simulcast.Binary64.Basic
import Simulcast.Proofs.Session.Attempts
import Simulcast.Remote.Simulated

/-!
# The backoff of a session

An operation of a session sends at most one login or refresh, and which one that is can be told from
the session and the time. What becomes of the backoff follows from whether it was granted, so in
every reachable session the backoff is a power of two in the failures since the last success.
-/

namespace Simulcast

/-- How many authentications failed in a row, how long that holds off a login, and since when. -/
structure Restraint where
  failures : Nat
  window : Duration
  since : Option Instant

namespace Restraint

def after (r : Restraint) (now : Instant) (granted : Bool) : Restraint :=
  if granted then { r with failures := 0, window := baseBackoff }
  else { failures := countUp r.failures, window := r.window.double, since := some now }

def afterAll (r : Restraint) (now : Instant) (attempts : List Sent) : Restraint :=
  attempts.foldl (fun r a => r.after now a.granted) r

theorem failures_after_eq_zero_iff (r : Restraint) (now : Instant) (granted : Bool) :
    (r.after now granted).failures = 0 ↔ granted = true := by
  cases granted with
  | true => exact ⟨fun _ => rfl, fun _ => rfl⟩
  | false => exact ⟨fun h => absurd h (countUp_ne_zero r.failures), nofun⟩

end Restraint

namespace Duration

theorem sub_since_self (d : Duration) (t : Instant) : d - t.since t = d := by
  change Duration.mk (d.nanos - (t.nanos - t.nanos).toNat) = d
  rw [Int.sub_self, Int.toNat_zero, Nat.sub_zero]

theorem since_self_lt (t : Instant) {d : Duration} (h : 0 < d.nanos) : t.since t < d := by
  rw [lt_def, Instant.since, Int.sub_self]
  exact h

theorem double_pos {d : Duration} (h : 0 < d.nanos) : 0 < d.double.nanos := by
  simp only [double, longest]
  omega

end Duration

namespace Session

def restraint (s : Session) : Restraint := ⟨s.retryCount, s.backoff, s.lastAttempt⟩

theorem throttle?_of_lastAttempt {s : Session} (hfailed : s.retryCount ≠ 0) {last : Instant}
    (hlast : s.lastAttempt = some last) (now : Instant) :
    s.throttle? now =
      if now.since last < s.backoff then some (s.backoff - now.since last) else none := by
  simp only [throttle?, if_neg hfailed, hlast]

theorem throttle?_of_failed {s s' : Session} {now : Instant} (hwindow : 0 < s.backoff.nanos)
    (h : s'.restraint = s.restraint.after now false) :
    s'.throttle? now = some s.backoff.double := by
  obtain ⟨hcount, hbackoff, hlast⟩ := Restraint.mk.inj h
  have hfailed : s'.retryCount ≠ 0 := by
    rw [hcount]
    exact countUp_ne_zero s.retryCount
  have hbackoff : s'.backoff = s.backoff.double := hbackoff
  rw [throttle?_of_lastAttempt hfailed hlast, hbackoff,
    if_pos (Duration.since_self_lt now (Duration.double_pos hwindow)), Duration.sub_since_self]

def login? (s : Session) (now : Instant) : Option Call :=
  if s.throttle? now = none ∧ s.settings.hasCredentials = true then
    some (.login s.settings.username s.settings.password)
  else none

/-- What a session sends to have an access token that is good. -/
def renewal? (s : Session) (now : Instant) : Option Call :=
  if s.tokenExpired now then
    if s.accessToken.isSome && s.refreshToken.isSome then s.refreshToken.map .refresh
    else s.login? now
  else none

end Session

namespace Connection

/-- The login or refresh that an operation sends. -/
def Operation.authentication? (op : Operation) (s : Session) (now : Instant) : Option Call :=
  match op with
  | .login | .forceLogin => s.login? now
  | .refresh => s.refreshToken.map .refresh
  | .authenticate | .perform _ | .findProcess _ => s.renewal? now
  | .logout | .countFailure | .checkThrottle | .clearError => none

variable {σ : Type} [Service σ]

/-- These logins and refreshes were sent on the way, and account for the restraint. -/
structure Sending (r r' : Connection (Recorded σ)) (attempts : List Sent) : Prop where
  record : r'.remote.attempts = r.remote.attempts ++ attempts
  clock : r'.clock = r.clock
  restraint : r'.session.restraint = r.session.restraint.afterAll r.now attempts

namespace Sending

variable {r r' r'' : Connection (Recorded σ)} {attempts more : List Sent}

omit [Service σ] in
theorem none (hremote : r'.remote.attempts = r.remote.attempts) (hclock : r'.clock = r.clock)
    (h : r'.session.restraint = r.session.restraint) : Sending r r' [] :=
  ⟨by rw [hremote, List.append_nil], hclock, h⟩

omit [Service σ] in
theorem trans (h : Sending r r' attempts) (h' : Sending r' r'' more) :
    Sending r r'' (attempts ++ more) where
  record := by rw [h'.record, h.record, List.append_assoc]
  clock := h'.clock.trans h.clock
  restraint := by
    have hnow : r'.now = r.now := congrArg Clock.now h.clock
    rw [h'.restraint, h.restraint, hnow]
    exact List.foldl_append.symm

omit [Service σ] in
theorem quietly (h : Sending r r' attempts) (h' : Sending r' r'' []) : Sending r r'' attempts := by
  rw [← List.append_nil attempts]
  exact h.trans h'

end Sending

variable (r : Connection (Recorded σ))

/-- A login or refresh is recorded, and accounts for the session that takes notice of the reply. -/
theorem ask_sends {call : Call} (hcall : call.isAuthentication = true) {s : Session}
    (hs : s.restraint =
      (r.ask call).2.session.restraint.after (r.ask call).2.now (r.ask call).1.isOk) :
    Sending r ((r.ask call).2.withSession s) [⟨call, (r.ask call).1.isOk⟩] := by
  refine ⟨?_, rfl, hs⟩
  change (r.remote.sent ++ [Sent.mk call (r.ask call).1.isOk]).filter (·.call.isAuthentication) = _
  simp only [List.filter_append, List.filter_cons, hcall, if_true, List.filter_nil]
  rfl

theorem ask_sends_none (token : String) (request : Request) :
    Sending r (r.ask (.perform token request)).2 [] := by
  refine .none ?_ rfl rfl
  change (r.remote.sent ++ [Sent.mk (.perform token request) _]).filter _ = _
  simp only [List.filter_append, List.filter_cons, Call.isAuthentication, Bool.false_eq_true,
    if_false, List.filter_nil, List.append_nil]
  rfl

theorem login_sends :
    ∃ attempts, Sending r r.login.connection attempts ∧
      attempts.map (·.call) = (r.session.login? r.now).toList := by
  unfold login Session.login?
  cases r.session.throttle? r.now with
  | some remaining => exact ⟨[], .none rfl rfl rfl, rfl⟩
  | none =>
    by_cases hcredentials : r.session.settings.hasCredentials = true
    · have hsent := @ask_sends _ _ r (.login r.session.settings.username
        r.session.settings.password) rfl
      simp only [hcredentials, if_true, and_self]
      generalize r.ask (.login r.session.settings.username _) = answer at hsent ⊢
      obtain ⟨error | tokens, r'⟩ := answer
      · exact ⟨_, hsent rfl, rfl⟩
      · exact ⟨_, hsent rfl, rfl⟩
    · simp only [hcredentials]
      exact ⟨[], .none rfl rfl rfl, rfl⟩

theorem refresh_sends :
    ∃ attempts, Sending r r.refresh.connection attempts ∧
      attempts.map (·.call) = (r.session.refreshToken.map Call.refresh).toList ∧
      ∀ error, r.refresh.result = .error error → ∀ a ∈ attempts, a.granted = false := by
  unfold refresh
  cases r.session.refreshToken with
  | none => exact ⟨[], .none rfl rfl rfl, rfl, fun _ _ => nofun⟩
  | some token =>
    have hsent := @ask_sends _ _ r (.refresh token) rfl
    simp only
    generalize r.ask (.refresh token) = answer at hsent ⊢
    obtain ⟨error | tokens, r'⟩ := answer
    · refine ⟨_, hsent ?_, rfl, fun _ _ a ha => ?_⟩
      · simp only [dropRefused]
        split_ifs <;> rfl
      · obtain rfl := List.mem_singleton.mp ha
        rfl
    · exact ⟨_, hsent rfl, rfl, nofun⟩

theorem login_sends_none {remaining : Duration}
    (h : r.session.throttle? r.now = some remaining) :
    Sending r r.login.connection [] := by
  obtain ⟨attempts, hsent, hcalls⟩ := r.login_sends
  have hnone : r.session.login? r.now = none := by
    refine if_neg fun hready => ?_
    cases h.symm.trans hready.1
  rw [hnone, Option.toList_none, List.map_eq_nil_iff] at hcalls
  rwa [hcalls] at hsent

theorem renew_sends (hwindow : 0 < r.session.backoff.nanos) :
    ∃ attempts, Sending r r.renew.connection attempts ∧
      attempts.map (·.call) = (r.session.renewal? r.now).toList := by
  unfold renew Session.renewal?
  split_ifs with hexpired hheld
  · obtain ⟨attempts, hsent, hcalls, hrefused⟩ := r.refresh_sends
    refine ⟨attempts, ?_, hcalls⟩
    generalize r.refresh = refreshed at hsent hrefused ⊢
    obtain ⟨error | _, r'⟩ := refreshed
    · obtain ⟨token, htoken⟩ := Option.isSome_iff_exists.mp (Bool.and_eq_true_iff.mp hheld).2
      rw [htoken] at hcalls
      obtain ⟨a, rfl, -⟩ := List.map_eq_singleton_iff.mp hcalls
      have hfailed : r'.session.restraint = r.session.restraint.after r.now false := by
        rw [← hrefused error rfl a (List.mem_singleton_self a)]
        exact hsent.restraint
      have hnow : r'.now = r.now := congrArg Clock.now hsent.clock
      have hthrottled : r'.session.throttle? r'.now = some r.session.backoff.double := by
        rw [hnow]
        exact Session.throttle?_of_failed hwindow hfailed
      exact hsent.quietly (r'.login_sends_none hthrottled)
    · exact hsent
  · exact r.login_sends
  · exact ⟨[], .none rfl rfl rfl, rfl⟩

theorem authenticate_sends_none : Sending r.renew.connection r.authenticate.connection [] := by
  unfold authenticate
  rcases r.renew with ⟨error | _, r'⟩
  · exact .none rfl rfl rfl
  · simp only
    cases r'.session.accessToken <;> exact .none rfl rfl rfl

omit [Service σ] in
theorem noteFailure_sends_none (request : Request) (error : RemoteError) :
    Sending r (r.noteFailure request error) [] := by
  refine .none rfl rfl ?_
  simp only [noteFailure]
  split_ifs <;> rfl

theorem perform_sends_none (request : Request) :
    Sending r.authenticate.connection (r.perform request).connection [] := by
  unfold perform
  rcases r.authenticate with ⟨error | token, r₁⟩
  · exact .none rfl rfl rfl
  · have hask := r₁.ask_sends_none token request
    simp only
    generalize r₁.ask (.perform token request) = reply at hask ⊢
    obtain ⟨error | value, r₂⟩ := reply
    · exact hask.quietly (r₂.noteFailure_sends_none request error)
    · exact hask

theorem findProcess_sends_none (reference : String) :
    Sending (r.perform .listProcesses).connection (r.findProcess reference).connection [] := by
  unfold findProcess
  rcases r.perform .listProcesses with ⟨error | processes, r'⟩ <;> exact .none rfl rfl rfl

/-- What an operation sends for the sake of tokens, and what becomes of the restraint by that. -/
theorem Operation.run_sends {op : Operation} (hop : op ≠ .countFailure)
    (hwindow : 0 < r.session.backoff.nanos) :
    ∃ attempts, Sending r (op.run r).connection attempts ∧
      attempts.map (·.call) = (op.authentication? r.session r.now).toList := by
  have hrenew := r.renew_sends hwindow
  have hauthenticate : ∃ attempts, Sending r r.authenticate.connection attempts ∧
      attempts.map (·.call) = (r.session.renewal? r.now).toList := by
    obtain ⟨attempts, hsent, hcalls⟩ := hrenew
    exact ⟨attempts, hsent.quietly r.authenticate_sends_none, hcalls⟩
  have hperform (request : Request) : ∃ attempts,
      Sending r (r.perform request).connection attempts ∧
        attempts.map (·.call) = (r.session.renewal? r.now).toList := by
    obtain ⟨attempts, hsent, hcalls⟩ := hauthenticate
    exact ⟨attempts, hsent.quietly (r.perform_sends_none request), hcalls⟩
  cases op with
  | countFailure => exact (hop rfl).elim
  | login => exact r.login_sends
  | forceLogin =>
    obtain ⟨attempts, hsent, hcalls⟩ := r.logout.login_sends
    exact ⟨attempts, ⟨hsent.record, hsent.clock, hsent.restraint⟩, hcalls⟩
  | refresh =>
    obtain ⟨attempts, hsent, hcalls, _⟩ := r.refresh_sends
    exact ⟨attempts, hsent, hcalls⟩
  | logout | clearError => exact ⟨[], .none rfl rfl rfl, rfl⟩
  | checkThrottle =>
    refine ⟨[], ?_, rfl⟩
    simp only [Operation.run, isLoginThrottled]
    cases r.session.throttle? r.now <;> exact .none rfl rfl rfl
  | authenticate => exact hauthenticate
  | perform request => exact hperform request
  | findProcess reference =>
    obtain ⟨attempts, hsent, hcalls⟩ := hperform .listProcesses
    exact ⟨attempts, hsent.quietly (r.findProcess_sends_none reference), hcalls⟩

variable {c : Connection σ} (op : Operation)

theorem Operation.attempts_calls (hwindow : 0 < c.session.backoff.nanos) :
    (op.attempts c).map (·.call) = (op.authentication? c.session c.now).toList := by
  by_cases hop : op = .countFailure
  · subst hop
    rfl
  · obtain ⟨attempts, hsent, hcalls⟩ := run_sends c.recorded hop hwindow
    rwa [show op.attempts c = attempts from hsent.record]

theorem Operation.run_restraint (hop : op ≠ .countFailure) (hwindow : 0 < c.session.backoff.nanos) :
    (op.run c).connection.session.restraint =
      c.session.restraint.afterAll c.now (op.attempts c) := by
  obtain ⟨attempts, hsent, _⟩ := run_sends c.recorded hop hwindow
  have hsame : op.run c = (op.run c.recorded).unrecorded := op.run_unrecorded c.recorded
  rw [show op.attempts c = attempts from hsent.record, hsame]
  exact hsent.restraint

theorem Operation.attempts_cases (hwindow : 0 < c.session.backoff.nanos) :
    op.attempts c = [] ∨ ∃ a, op.attempts c = [a] := by
  have hcalls := op.attempts_calls hwindow
  generalize op.authentication? c.session c.now = sent at hcalls
  cases sent with
  | none => exact .inl (List.map_eq_nil_iff.mp hcalls)
  | some call =>
    obtain ⟨a, ha, _⟩ := List.map_eq_singleton_iff.mp hcalls
    exact .inr ⟨a, ha⟩

theorem Operation.attempts_eq_singleton (hop : op ≠ .countFailure)
    (hwindow : 0 < c.session.backoff.nanos) {call : Call}
    (hcall : op.authentication? c.session c.now = some call) {granted : Bool}
    (hgranted : (op.run c).connection.session.retryCount = 0 ↔ granted = true) :
    op.attempts c = [⟨call, granted⟩] := by
  have hcalls := op.attempts_calls hwindow
  have hrestraint := op.run_restraint hop hwindow
  rw [hcall] at hcalls
  obtain ⟨⟨sent, answered⟩, hsent, rfl⟩ := List.map_eq_singleton_iff.mp hcalls
  rw [hsent] at hrestraint ⊢
  have hcount : (op.run c).connection.session.retryCount =
      (c.session.restraint.after c.now answered).failures :=
    congrArg Restraint.failures hrestraint
  have hanswered : answered = true ↔ granted = true := by
    rw [← hgranted, hcount]
    exact (c.session.restraint.failures_after_eq_zero_iff c.now answered).symm
  rw [Bool.eq_iff_iff.mpr hanswered]

end Connection

/-! ### Powers of two -/

/-- The backoff after so many failures: it doubles from one second on until it ends in the longest
duration there is. -/
def windowAfter (n : Nat) : Duration := if n < 64 then .ofSecs (twoTo n) else .longest

theorem windowAfter_pos (n : Nat) : 0 < (windowAfter n).nanos := by
  unfold windowAfter
  split_ifs
  · exact Nat.mul_pos (twoTo_pos n) (by decide)
  · decide

theorem windowAfter_double (n : Nat) : (windowAfter n).double = windowAfter (n + 1) := by
  unfold windowAfter
  split_ifs with h h' h'
  · have hpow : twoTo (n + 1) ≤ 9223372036854775808 := twoTo_le (Nat.le_of_lt_succ h')
    simp only [Duration.double, Duration.ofSecs, Duration.longest, Duration.mk.injEq]
    rw [twoTo_succ] at hpow ⊢
    omega
  · obtain rfl : n = 63 := by omega
    decide
  · omega
  · decide

theorem windowAfter_countUp (n : Nat) : windowAfter (countUp n) = windowAfter (n + 1) := by
  by_cases hroom : n + 1 ≤ counterMax
  · rw [countUp, Nat.min_eq_left hroom]
  · have hfull : countUp n = counterMax := Nat.min_eq_right (Nat.le_of_not_le hroom)
    have hlarge : ¬ n + 1 < 64 := by
      unfold counterMax at hroom
      omega
    rw [hfull, windowAfter, windowAfter, if_neg (by decide), if_neg hlarge]

/-- The window is the one for so many failures, and a failure left its time. -/
structure Restraint.Doubled (r : Restraint) : Prop where
  window : r.window = windowAfter r.failures
  since : 0 < r.failures → r.since.isSome = true

namespace Restraint.Doubled

variable {r : Restraint}

theorem positive (h : r.Doubled) : 0 < r.window.nanos := by
  rw [h.window]
  exact windowAfter_pos r.failures

theorem after (h : r.Doubled) (now : Instant) (granted : Bool) : (r.after now granted).Doubled := by
  cases granted with
  | true => exact ⟨rfl, fun hfailed => absurd hfailed (Nat.lt_irrefl 0)⟩
  | false =>
    refine ⟨?_, fun _ => rfl⟩
    change r.window.double = windowAfter (countUp r.failures)
    rw [h.window, windowAfter_double, windowAfter_countUp]

theorem afterAll (h : r.Doubled) (now : Instant) (attempts : List Sent) :
    (r.afterAll now attempts).Doubled := by
  induction attempts generalizing r with
  | nil => exact h
  | cons a rest ih => exact ih (h.after now a.granted)

end Restraint.Doubled

variable {σ : Type} [Service σ]

theorem Connection.Operation.run_doubled (op : Operation) {c : Connection σ}
    (h : c.session.restraint.Doubled) : (op.run c).connection.session.restraint.Doubled := by
  by_cases hop : op = .countFailure
  · subst hop
    exact h.after c.now false
  · rw [op.run_restraint hop h.positive]
    exact h.afterAll c.now (op.attempts c)

theorem Session.Reachable.doubled {s : Session} (h : Reachable σ s) : s.restraint.Doubled := by
  induction h with
  | new settings => exact ⟨rfl, fun hfailed => absurd hfailed (Nat.lt_irrefl 0)⟩
  | run op c _ ih => exact op.run_doubled ih

namespace Connection

variable {c : Connection σ}

/-- The failures start over when a login or refresh is granted, and at no other time. -/
theorem Operation.run_retryCount (op : Operation) (h : c.session.restraint.Doubled) :
    ((∃ a ∈ op.attempts c, a.granted = true) →
        (op.run c).connection.session.retryCount = 0) ∧
      (0 < c.session.retryCount → (op.run c).connection.session.retryCount = 0 →
        ∃ a ∈ op.attempts c, a.granted = true) := by
  by_cases hop : op = .countFailure
  · subst hop
    refine ⟨?_, fun _ hzero => absurd hzero (countUp_ne_zero c.session.retryCount)⟩
    rintro ⟨a, ha, _⟩
    cases ha
  · have hcount : (op.run c).connection.session.retryCount =
        (c.session.restraint.afterAll c.now (op.attempts c)).failures :=
      congrArg Restraint.failures (op.run_restraint hop h.positive)
    rcases op.attempts_cases h.positive with hnone | ⟨a, ha⟩
    · rw [hcount, hnone]
      refine ⟨?_, fun hfailed hzero => absurd hzero (Nat.ne_of_gt hfailed)⟩
      rintro ⟨a, ha, _⟩
      cases ha
    · have hgranted := c.session.restraint.failures_after_eq_zero_iff c.now a.granted
      rw [hcount, ha]
      refine ⟨?_, fun _ hzero => ⟨a, List.mem_singleton_self a, hgranted.mp hzero⟩⟩
      rintro ⟨a', ha', ht⟩
      obtain rfl := List.mem_singleton.mp ha'
      exact hgranted.mpr ht

theorem Operation.run_unattempted (op : Operation) (h : c.session.restraint.Doubled)
    {error : RemoteError} (herror : (op.run c).result = .error error) (hnone : op.attempts c = []) :
    (op.run c).connection.session.restraint = c.session.restraint := by
  have hop : op ≠ .countFailure := by
    rintro rfl
    cases herror
  rw [op.run_restraint hop h.positive, hnone]
  rfl

/-- In a reachable session the backoff is two to the failures in a row, in seconds, up to the
longest duration there is, and there is a last attempt when something failed. The failures start
over exactly when a login or refresh is granted; and an operation that fails without sending one
changes neither their number nor the backoff nor the last attempt. -/
theorem backoff_counts_failures (c : Connection σ) (h : Session.Reachable σ c.session)
    (op : Operation) :
    c.session.backoff =
        (if c.session.retryCount < 64 then .ofSecs (twoTo c.session.retryCount) else .longest) ∧
      (0 < c.session.retryCount → c.session.lastAttempt.isSome = true) ∧
      ((∃ a ∈ op.attempts c, a.granted = true) →
        (op.run c).connection.session.retryCount = 0) ∧
      (0 < c.session.retryCount → (op.run c).connection.session.retryCount = 0 →
        ∃ a ∈ op.attempts c, a.granted = true) ∧
      ∀ error, (op.run c).result = .error error → op.attempts c = [] →
        let s := (op.run c).connection.session
        s.retryCount = c.session.retryCount ∧ s.backoff = c.session.backoff ∧
          s.lastAttempt = c.session.lastAttempt := by
  have hdoubled := h.doubled
  obtain ⟨hreset, hgranted⟩ := op.run_retryCount hdoubled
  refine ⟨hdoubled.window, hdoubled.since, hreset, hgranted, fun error herror hnone => ?_⟩
  obtain ⟨hcount, hbackoff, hlast⟩ :=
    Restraint.mk.inj (op.run_unattempted hdoubled herror hnone)
  exact ⟨hcount, hbackoff, hlast⟩

def misspelt : Connection Simulated where
  session := { settings :=
    { host := "localhost", port := 0, username := "user", password := "secert" } }
  clock := .startingAt 0
  remote := { username := "user", password := "secret" }

/-- A second after a login was refused, another second has to pass before the next one. -/
theorem backoff_counts_failures_throttled :
    let c := (Operation.run .login misspelt).connection.sleep (.ofSecs 1)
    let c' := (Operation.run .login c).connection
    c.session.retryCount = 1 ∧ c.session.backoff = .ofSecs 2 ∧
      c.session.lastAttempt.isSome = true ∧
      (Operation.run .login c).result = .error (.throttled (.ofSecs 1)) ∧
      c'.session.retryCount = c.session.retryCount ∧ c'.session.backoff = c.session.backoff ∧
      c'.session.lastAttempt = c.session.lastAttempt := by
  intro c c'
  have hreached : Session.Reachable Simulated c.session := .run .login misspelt (.new _)
  obtain ⟨hbackoff, hlast, _, _, hkept⟩ := backoff_counts_failures c hreached .login
  have hthrottled : (Operation.run .login c).result = .error (.throttled (.ofSecs 1)) := by decide
  exact ⟨by decide, hbackoff.trans (by decide), hlast (by decide), hthrottled,
    hkept _ hthrottled (by decide)⟩

end Connection

end Simulcast
