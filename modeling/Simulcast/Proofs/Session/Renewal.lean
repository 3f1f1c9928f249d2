import Simulcast.Proofs.Session.Fallback

/-!
# Renewing tokens goes unnoticed

A session with the right credentials, over a service that is not made to fail, is followed through
any operations while the clock is set, the expiry of new tokens is announced and access tokens are
revoked. Its refresh token stays good all the while, so that a token can always be had again. Only a
revoked access token can be refused, and that one is forgotten at once.
-/

namespace Simulcast

open Simulated (Alike)

/-- The refusals that the credentials and the backoff of a session give. -/
def RemoteError.withholds : RemoteError → Bool
  | .throttled _ | .missingCredentials => true
  | _ => false

/-- What is served is never refused for a token, and never held back. -/
theorem Simulated.serve_error {s : Simulated} {request : Request} {error : RemoteError}
    (h : (s.serve request).1 = .error error) :
    error.isAuth = false ∧ error.withholds = false := by
  cases request with
  | listProcesses => cases h
  | createProcess config =>
    simp only [serve, create] at h
    split_ifs at h
    cases h
    exact ⟨rfl, rfl⟩
  | getProcess id | getOutputs id | command id _ | deleteProcess id =>
    simp only [serve] at h
    split at h <;> cases h
    exact ⟨rfl, rfl⟩
  | addOutput id _ | removeOutput id _ =>
    simp only [serve] at h
    split at h
    · cases h
      exact ⟨rfl, rfl⟩
    · split_ifs at h
      all_goals
        cases h
        exact ⟨rfl, rfl⟩

namespace Connection

variable {c : Connection Simulated}

def refused {α : Type} : Except RemoteError α → Bool
  | .error error => error.isAuth
  | .ok _ => false

/-- What an operation comes to while tokens can be had. -/
structure Renewing {α : Type} (c : Connection Simulated) (o : Outcome Simulated α) : Prop where
  renewable : Renewable o.connection
  answering : Answering c → Answering o.connection
  prompt : ∀ error, o.result = .error error → error.withholds = false
  accepted : Answering c → refused o.result = false
  recovers : refused o.result = true → Answering o.connection

theorem Renewing.of_answering {α : Type} {o : Outcome Simulated α} (h : Answering o.connection)
    (hresult : ∀ error, o.result = .error error → error.isAuth = false ∧ error.withholds = false) :
    c.Renewing o where
  renewable := h.renewable
  answering _ := h
  prompt error herror := (hresult error herror).2
  accepted _ := by
    rcases o with ⟨error | _, _⟩
    · exact (hresult error rfl).1
    · rfl
  recovers _ := h

theorem Renewing.of_ok {α : Type} {o : Outcome Simulated α} {value : α} (h : o.result = .ok value)
    (hconnection : Renewable o.connection) (hanswering : Answering c → Answering o.connection) :
    c.Renewing o where
  renewable := hconnection
  answering := hanswering
  prompt _ herror := nomatch h.symm.trans herror
  accepted _ := by rw [h]; rfl
  recovers hrefused := by rw [h] at hrefused; cases hrefused

theorem Renewing.map {α β : Type} {o : Outcome Simulated α} (h : c.Renewing o) (f : α → β) :
    c.Renewing ⟨o.result.map f, o.connection⟩ := by
  obtain ⟨error | value, c'⟩ := o
  · refine ⟨h.renewable, h.answering, ?_, h.accepted, h.recovers⟩
    rintro _ ⟨⟩
    exact h.prompt error rfl
  · exact ⟨h.renewable, h.answering, nofun, fun _ => rfl, nofun⟩

theorem logout_answering (h : Renewable c) : Answering c.logout :=
  ⟨h.failures, h.credentials, h.username, h.password, nofun, nofun, h.unthrottled⟩

theorem login_renewing (h : Renewable c) : c.Renewing c.login := by
  obtain ⟨hok, hrenewed⟩ := login_welcomed h.toWelcome (if_pos h.unthrottled)
  exact .of_ok hok hrenewed.answering.renewable fun _ => hrenewed.answering

theorem refresh_renewing (h : Renewable c) : c.Renewing c.refresh := by
  cases htoken : c.session.refreshToken with
  | some token =>
    obtain ⟨hok, hrenewed⟩ := refresh_renews h (by rw [htoken]; rfl)
    exact .of_ok hok hrenewed.answering.renewable fun _ => hrenewed.answering
  | none =>
    simp only [refresh, htoken]
    refine ⟨h.recordError _, fun h => h.recordError _, ?_, fun _ => rfl, fun hrefused => ?_⟩
    · rintro _ ⟨⟩
      rfl
    · cases hrefused

theorem authenticate_renewing (h : Renewable c) : c.Renewing c.authenticate := by
  obtain ⟨hok, hrenewed⟩ | ⟨token, htoken, hrenew⟩ := renew_cases h
  · obtain ⟨token, hok, _, hanswering, _⟩ := authenticate_renewed hok hrenewed
    exact .of_ok hok hanswering.renewable fun _ => hanswering
  · rw [authenticate_held hrenew htoken]
    exact .of_ok rfl h id

theorem perform_revoked (h : Renewable c) {token : String} (hrenew : c.renew = ⟨.ok (), c⟩)
    (htoken : c.session.accessToken = some token) (hunknown : token ∉ c.remote.accessTokens)
    (request : Request) :
    (c.perform request).result = .error Simulated.invalidToken ∧
      Answering (c.perform request).connection := by
  have hask : c.ask (.perform token request) =
      (.error Simulated.invalidToken, { c with remote := c.remote.counted request.kind }) :=
    congrArg (fun reply => (reply.1, { c with remote := reply.2 }))
      (Simulated.answer_perform_unknown (h.failures request.kind) hunknown)
  unfold perform
  simp only [authenticate_held hrenew htoken, hask]
  exact ⟨trivial, h.failures, h.credentials, h.username, h.password, nofun, h.refresh,
    h.unthrottled⟩

theorem perform_renewing (h : Renewable c) (request : Request) :
    c.Renewing (c.perform request) := by
  have hserved (hperform : Answering (c.perform request).connection ∧
      ∃ s, Alike c.remote s ∧ (c.perform request).result = (s.serve request).1 ∧
        (c.perform request).connection.remote = (s.serve request).2) :
      c.Renewing (c.perform request) := by
    obtain ⟨hanswering, s, _, hresult, _⟩ := hperform
    exact .of_answering hanswering fun error herror =>
      Simulated.serve_error (hresult.symm.trans herror)
  obtain ⟨hok, hrenewed⟩ | ⟨token, htoken, hrenew⟩ := renew_cases h
  · exact hserved (perform_renewed hok hrenewed request)
  by_cases hknown : token ∈ c.remote.accessTokens
  · have hanswering : Answering c := h.answering fun held hheld => by
      cases htoken.symm.trans hheld
      exact hknown
    exact hserved (perform_answered hanswering request)
  · obtain ⟨hresult, hanswering⟩ := perform_revoked h hrenew htoken hknown request
    refine ⟨hanswering.renewable, fun _ => hanswering, ?_, fun h => ?_, fun _ => hanswering⟩
    · rintro _ herror
      cases hresult.symm.trans herror
      rfl
    · exact absurd (h.access token htoken) hknown

theorem findProcess_renewing (h : Renewable c) (reference : String) :
    c.Renewing (c.findProcess reference) := by
  have hlisted := (perform_renewing h .listProcesses).map
    fun processes => processes.find? (·.reference == reference)
  rw [← findProcess_result, ← findProcess_connection reference] at hlisted
  exact hlisted

theorem Operation.run_renewing (h : Renewable c) {op : Operation} (hop : op ≠ .countFailure) :
    c.Renewing (op.run c) := by
  cases op with
  | login => exact login_renewing h
  | refresh => exact refresh_renewing h
  | forceLogin =>
    have hout := logout_answering h
    have hlogin := login_renewing hout.renewable
    exact ⟨hlogin.renewable, fun _ => hlogin.answering hout, hlogin.prompt,
      fun _ => hlogin.accepted hout, hlogin.recovers⟩
  | logout => exact .of_ok rfl (logout_answering h).renewable fun _ => logout_answering h
  | countFailure => exact absurd rfl hop
  | checkThrottle =>
    have hthrottle : c.session.throttle? c.now = none := if_pos h.unthrottled
    simp only [Operation.run, isLoginThrottled, hthrottle]
    exact .of_ok rfl h id
  | clearError =>
    exact .of_ok rfl ⟨⟨h.failures, h.credentials, h.username, h.password⟩, h.refresh,
      h.unthrottled⟩ fun h => ⟨h.failures, h.credentials, h.username, h.password, h.access,
      h.refresh, h.unthrottled⟩
  | authenticate => exact (authenticate_renewing h).map _
  | perform request => exact (perform_renewing h request).map _
  | findProcess reference => exact (findProcess_renewing h reference).map _

/-! ### Over a run -/

/-- What can happen to a session and its service, short of a failure of the service. -/
inductive Event where
  | operation (op : Operation)
  | setClock (clock : Clock)
  | announceExpiry (expiry : Option Nat)
  | revokeAccess

namespace Event

def run (e : Event) (c : Connection Simulated) : Connection Simulated :=
  match e with
  | .operation op => (op.run c).connection
  | .setClock clock => { c with clock }
  | .announceExpiry expiry => { c with remote := { c.remote with tokenExpiry := expiry } }
  | .revokeAccess => { c with remote := c.remote.revokeAccess }

def runAll (events : List Event) (c : Connection Simulated) : Connection Simulated :=
  events.foldl (fun c e => e.run c) c

def answer? (e : Event) (c : Connection Simulated) : Option (Except RemoteError Unit) :=
  match e with
  | .operation op => some (op.run c).result
  | _ => none

def answers : List Event → Connection Simulated → List (Except RemoteError Unit)
  | [], _ => []
  | e :: events, c => (e.answer? c).toList ++ answers events (e.run c)

/-- The session counts its failures itself. -/
def Counted (e : Event) : Prop := e ≠ .operation .countFailure

variable {c : Connection Simulated} {e : Event} {events : List Event}

theorem mem_answers_cons {answer : Except RemoteError Unit} :
    answer ∈ answers (e :: events) c ↔
      e.answer? c = some answer ∨ answer ∈ answers events (e.run c) := by
  rw [answers, List.mem_append, Option.mem_toList]

theorem answer?_renewing (h : Renewable c) (he : e.Counted) {answer : Except RemoteError Unit}
    (hanswer : e.answer? c = some answer) : c.Renewing ⟨answer, e.run c⟩ := by
  cases e with
  | operation op =>
    have hop : op ≠ .countFailure := fun heq => he (heq ▸ rfl)
    cases hanswer
    exact Operation.run_renewing h hop
  | _ => cases hanswer

theorem run_renewable (h : Renewable c) (he : e.Counted) : Renewable (e.run c) := by
  cases e with
  | operation op => exact (answer?_renewing h he rfl).renewable
  | setClock clock | announceExpiry expiry | revokeAccess =>
    exact ⟨⟨h.failures, h.credentials, h.username, h.password⟩, h.refresh, h.unthrottled⟩

theorem run_answering (h : Answering c) (he : e.Counted) (hkept : e ≠ .revokeAccess) :
    Answering (e.run c) := by
  cases e with
  | operation op => exact (answer?_renewing h.renewable he rfl).answering h
  | setClock clock | announceExpiry expiry =>
    exact ⟨h.failures, h.credentials, h.username, h.password, h.access, h.refresh,
      h.unthrottled⟩
  | revokeAccess => exact absurd rfl hkept

theorem runAll_renewable (h : Renewable c) (hevents : ∀ e ∈ events, e.Counted) :
    Renewable (runAll events c) := by
  induction events generalizing c with
  | nil => exact h
  | cons e events ih =>
    obtain ⟨he, hrest⟩ := List.forall_mem_cons.mp hevents
    exact ih (run_renewable h he) hrest

theorem answers_prompt (h : Renewable c) (hevents : ∀ e ∈ events, e.Counted) :
    ∀ error, .error error ∈ answers events c → error.withholds = false := by
  induction events generalizing c with
  | nil => exact nofun
  | cons e events ih =>
    obtain ⟨he, hrest⟩ := List.forall_mem_cons.mp hevents
    intro error herror
    rcases mem_answers_cons.mp herror with hfirst | hlater
    · exact (answer?_renewing h he hfirst).prompt error rfl
    · exact ih (run_renewable h he) hrest error hlater

theorem answers_accepted (h : Answering c) (hevents : ∀ e ∈ events, e.Counted)
    (hkept : .revokeAccess ∉ events) : ∀ answer ∈ answers events c, refused answer = false := by
  induction events generalizing c with
  | nil => exact nofun
  | cons e events ih =>
    obtain ⟨he, hrest⟩ := List.forall_mem_cons.mp hevents
    obtain ⟨hfirst, hlater⟩ := not_or.mp (mt List.mem_cons.mpr hkept)
    intro answer hanswer
    rcases mem_answers_cons.mp hanswer with hhere | hthere
    · exact (answer?_renewing h.renewable he hhere).accepted h
    · exact ih (run_answering h he (Ne.symm hfirst)) hrest hlater answer hthere

/-- One refusal at most, because the token that is had after it is good. -/
theorem answers_refused (h : Renewable c) (hevents : ∀ e ∈ events, e.Counted)
    (hkept : .revokeAccess ∉ events) : (answers events c).countP refused ≤ 1 := by
  induction events generalizing c with
  | nil => exact Nat.zero_le 1
  | cons e events ih =>
    obtain ⟨he, hrest⟩ := List.forall_mem_cons.mp hevents
    obtain ⟨_, hlater⟩ := not_or.mp (mt List.mem_cons.mpr hkept)
    have hnext := ih (run_renewable h he) hrest hlater
    rw [answers, List.countP_append]
    cases hanswer : e.answer? c with
    | none =>
      rw [Option.toList_none, List.countP_nil, Nat.zero_add]
      exact hnext
    | some answer =>
      have hrun := answer?_renewing h he hanswer
      cases hrefused : refused answer with
      | false =>
        rw [Option.toList_some, List.countP_singleton, hrefused, if_neg Bool.false_ne_true,
          Nat.zero_add]
        exact hnext
      | true =>
        have hnone : (answers events (e.run c)).countP refused = 0 :=
          List.countP_eq_zero.mpr fun later hlist => by
            rw [answers_accepted (hrun.recovers hrefused) hrest hlater later hlist]
            exact Bool.false_ne_true
        rw [hnone]
        exact List.countP_le_length

end Event

/-- A session with the right credentials, over a service that is not made to fail, is asked for
anything while the clock is set, expiries are announced and access tokens are revoked. No failed
login is ever counted, nothing is held back for the backoff or for missing credentials, no token is
refused unless access tokens were revoked, and from then on one at most until they are again. -/
theorem renewal_is_transparent (settings : Settings) (clock : Clock) (remote : Simulated)
    (h : Welcome (fresh settings clock remote)) (before after : List Event)
    (hcounted : ∀ e ∈ before ++ after, e.Counted) (hafter : .revokeAccess ∉ after) :
    let start := fresh settings clock remote
    let c := Event.runAll before start
    c.session.retryCount = 0 ∧
      (∀ error, .error error ∈ Event.answers before start → error.withholds = false) ∧
      (.revokeAccess ∉ before → ∀ answer ∈ Event.answers before start, refused answer = false) ∧
      (Event.answers after c).countP refused ≤ 1 := by
  intro start c
  have hstart : Answering start :=
    ⟨h.failures, h.credentials, h.username, h.password, nofun, nofun, rfl⟩
  obtain ⟨hbefore, hthen⟩ := List.forall_mem_append.mp hcounted
  have hc : Renewable c := Event.runAll_renewable hstart.renewable hbefore
  exact ⟨hc.unthrottled, Event.answers_prompt hstart.renewable hbefore,
    Event.answers_accepted hstart hbefore, Event.answers_refused hc hthen hafter⟩

/-- The processes are listed twice after the access token of a login was revoked: the first answer
is a refusal, and the second is the list. -/
theorem renewal_is_transparent_revoked :
    let before : List Event := [.operation .login, .revokeAccess]
    let after : List Event := List.replicate 2 (.operation (.perform .listProcesses))
    let c := Event.runAll before spelt
    Welcome spelt ∧ (∀ e ∈ before ++ after, e.Counted) ∧ .revokeAccess ∉ after ∧
      c.session.retryCount = 0 ∧ (Event.answers after c).countP refused ≤ 1 ∧
      Event.answers after c = [.error Simulated.invalidToken, .ok ()] := by
  intro before after c
  have hwelcome : Welcome spelt := ⟨fun _ => rfl, by decide, rfl, rfl⟩
  have hcounted : ∀ e ∈ before ++ after, e.Counted := by
    simp [before, after, Event.Counted, List.replicate]
  have hafter : .revokeAccess ∉ after := by simp [after, List.replicate]
  obtain ⟨hcount, _, _, hrefused⟩ := renewal_is_transparent spelt.session.settings spelt.clock
    spelt.remote hwelcome before after hcounted hafter
  exact ⟨hwelcome, hcounted, hafter, hcount, hrefused, by decide⟩

end Connection

end Simulcast
