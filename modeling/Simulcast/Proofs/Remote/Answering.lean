import Simulcast.Proofs.Remote.Passing
import Simulcast.Proofs.Remote.Quiet

/-!
# A service that answers every call

When no failure is due, the credentials are right and the tokens that are held are good, every
request gets a token and is served. It stays so whatever is requested and however long is slept.
-/

namespace Simulcast

open Simulated (Alike)

namespace Simulated

def counted (s : Simulated) (kind : CallKind) : Simulated :=
  { s with calls := setCount s.calls kind (s.calls kind + 1) }

theorem counted_alike (s : Simulated) (kind : CallKind) : Alike s (s.counted kind) := ⟨rfl, rfl⟩

theorem answer_eq {s : Simulated} {call : Call} (h : s.failures call.kind = 0) :
    s.answer call = (s.counted call.kind).respond call := by
  unfold answer enter
  simp only [h, if_true]
  rfl

theorem answer_login {s : Simulated} (h : s.failures .login = 0) :
    s.answer (.login s.username s.password) =
      (.ok (s.counted .login).issueTokens.1, (s.counted .login).issueTokens.2) := by
  have heq : s.answer (.login s.username s.password) =
      (s.counted .login).respond (.login s.username s.password) := answer_eq h
  exact heq.trans (if_pos ⟨rfl, rfl⟩)

theorem answer_refresh {s : Simulated} (h : s.failures .refresh = 0) {token : String}
    (htoken : token ∈ s.refreshTokens) :
    s.answer (.refresh token) =
      (.ok { (s.counted .refresh).issueTokens.1 with refresh := none },
        (s.counted .refresh).issueTokens.2) := by
  have heq : s.answer (.refresh token) = (s.counted .refresh).respond (.refresh token) :=
    answer_eq h
  exact heq.trans (if_pos htoken)

theorem answer_refresh_unknown {s : Simulated} (h : s.failures .refresh = 0) {token : String}
    (htoken : token ∉ s.refreshTokens) :
    s.answer (.refresh token) =
      (.error (.unauthorized "invalid refresh token"), s.counted .refresh) := by
  have heq : s.answer (.refresh token) = (s.counted .refresh).respond (.refresh token) :=
    answer_eq h
  exact heq.trans (if_neg htoken)

theorem answer_perform {s : Simulated} {request : Request} (h : s.failures request.kind = 0)
    {token : String} (htoken : token ∈ s.accessTokens) :
    s.answer (.perform token request) = (s.counted request.kind).serve request := by
  have heq : s.answer (.perform token request) =
      (s.counted request.kind).respond (.perform token request) := answer_eq h
  exact heq.trans (if_pos htoken)

theorem answer_perform_unknown {s : Simulated} {request : Request}
    (h : s.failures request.kind = 0) {token : String} (htoken : token ∉ s.accessTokens) :
    s.answer (.perform token request) = (.error invalidToken, s.counted request.kind) := by
  have heq : s.answer (.perform token request) =
      (s.counted request.kind).respond (.perform token request) := answer_eq h
  exact heq.trans (if_neg htoken)

end Simulated

/-- Every call over the connection is answered. -/
structure Answering (c : Connection Simulated) : Prop where
  failures : ∀ kind, c.remote.failures kind = 0
  credentials : c.session.settings.hasCredentials = true
  username : c.session.settings.username = c.remote.username
  password : c.session.settings.password = c.remote.password
  access : ∀ token, c.session.accessToken = some token → token ∈ c.remote.accessTokens
  refresh : ∀ token, c.session.refreshToken = some token → token ∈ c.remote.refreshTokens
  unthrottled : c.session.retryCount = 0

theorem Answering.sleep {c : Connection Simulated} (h : Answering c) (d : Duration) :
    Answering (c.sleep d) :=
  ⟨h.failures, h.credentials, h.username, h.password, h.access, h.refresh, h.unthrottled⟩

/-- Nothing is made to fail, and the credentials are those of the account. -/
structure Welcome (c : Connection Simulated) : Prop where
  failures : ∀ kind, c.remote.failures kind = 0
  credentials : c.session.settings.hasCredentials = true
  username : c.session.settings.username = c.remote.username
  password : c.session.settings.password = c.remote.password

theorem Answering.welcome {c : Connection Simulated} (h : Answering c) : Welcome c :=
  ⟨h.failures, h.credentials, h.username, h.password⟩

/-- Tokens can be had again over the connection, whatever became of the access token. -/
structure Renewable (c : Connection Simulated) : Prop extends Welcome c where
  refresh : ∀ token, c.session.refreshToken = some token → token ∈ c.remote.refreshTokens
  unthrottled : c.session.retryCount = 0

theorem Answering.renewable {c : Connection Simulated} (h : Answering c) : Renewable c :=
  ⟨h.welcome, h.refresh, h.unthrottled⟩

theorem Answering.recordError {c : Connection Simulated} (h : Answering c) (message : String) :
    Answering (c.withSession (c.session.recordError message)) :=
  ⟨h.failures, h.credentials, h.username, h.password, h.access, h.refresh, h.unthrottled⟩

theorem Renewable.recordError {c : Connection Simulated} (h : Renewable c) (message : String) :
    Renewable (c.withSession (c.session.recordError message)) :=
  ⟨⟨h.failures, h.credentials, h.username, h.password⟩, h.refresh, h.unthrottled⟩

theorem Renewable.answering {c : Connection Simulated} (h : Renewable c)
    (haccess : ∀ token, c.session.accessToken = some token → token ∈ c.remote.accessTokens) :
    Answering c :=
  ⟨h.failures, h.credentials, h.username, h.password, haccess, h.refresh, h.unthrottled⟩

namespace Connection

variable {c : Connection Simulated}

/-- What is left when a token was asked for. -/
structure Renewed (c c' : Connection Simulated) : Prop where
  answering : Answering c'
  alike : Alike c.remote c'.remote
  token : c'.session.accessToken.isSome = true

theorem acceptTokens_renews (h : Welcome c) (kind : CallKind) {tokens : Tokens}
    (haccess : tokens.access = (c.remote.counted kind).issueTokens.1.access)
    (hrefresh : ∀ token, tokens.refresh.or c.session.refreshToken = some token →
      token ∈ (c.remote.counted kind).issueTokens.2.refreshTokens) :
    c.Renewed
      ({ c with remote := (c.remote.counted kind).issueTokens.2 }.acceptTokens tokens) := by
  refine ⟨⟨h.failures, h.credentials, h.username, h.password, ?_, hrefresh, rfl⟩, ⟨rfl, rfl⟩, rfl⟩
  rintro _ ⟨⟩
  rw [haccess]
  exact List.mem_append_right _ List.mem_cons_self

theorem login_welcomed (h : Welcome c) (hthrottle : c.session.throttle? c.now = none) :
    c.login.result = .ok () ∧ c.Renewed c.login.connection := by
  have hask : c.ask (.login c.session.settings.username c.session.settings.password) =
      (.ok (c.remote.counted .login).issueTokens.1,
        { c with remote := (c.remote.counted .login).issueTokens.2 }) := by
    rw [h.username, h.password]
    exact congrArg (fun reply => (reply.1, { c with remote := reply.2 }))
      (Simulated.answer_login (h.failures .login))
  unfold login
  simp only [hthrottle, h.credentials, if_true, hask]
  refine ⟨trivial, acceptTokens_renews h .login rfl ?_⟩
  rintro _ ⟨⟩
  exact List.mem_append_right _ List.mem_cons_self

theorem refresh_renews (h : Renewable c) (hsome : c.session.refreshToken.isSome = true) :
    c.refresh.result = .ok () ∧ c.Renewed c.refresh.connection := by
  obtain ⟨token, htoken⟩ := Option.isSome_iff_exists.mp hsome
  have hask : c.ask (.refresh token) =
      (.ok { (c.remote.counted .refresh).issueTokens.1 with refresh := none },
        { c with remote := (c.remote.counted .refresh).issueTokens.2 }) :=
    congrArg (fun reply => (reply.1, { c with remote := reply.2 }))
      (Simulated.answer_refresh (h.failures .refresh) (h.refresh token htoken))
  unfold refresh
  simp only [htoken, hask]
  refine ⟨trivial, acceptTokens_renews h.toWelcome .refresh rfl ?_⟩
  intro held hheld
  exact List.mem_append_left _ (h.refresh held hheld)

theorem renew_cases (h : Renewable c) :
    (c.renew.result = .ok () ∧ c.Renewed c.renew.connection) ∨
      ∃ token, c.session.accessToken = some token ∧ c.renew = ⟨.ok (), c⟩ := by
  unfold renew
  split_ifs with hexpired hboth
  · obtain ⟨hok, hrenewed⟩ := refresh_renews h (Bool.and_eq_true_iff.mp hboth).2
    generalize c.refresh = refreshed at hok hrenewed ⊢
    obtain ⟨result, c'⟩ := refreshed
    obtain rfl : result = .ok () := hok
    exact .inl ⟨rfl, hrenewed⟩
  · exact .inl (login_welcomed h.toWelcome (if_pos h.unthrottled))
  · cases htoken : c.session.accessToken with
    | some token => exact .inr ⟨token, rfl, rfl⟩
    | none => exact absurd (by simp only [Session.tokenExpired, htoken]) hexpired

theorem renew_renews (h : Answering c) :
    c.renew.result = .ok () ∧ c.Renewed c.renew.connection := by
  obtain hrenewed | ⟨token, htoken, heq⟩ := renew_cases h.renewable
  · exact hrenewed
  · rw [heq]
    exact ⟨rfl, h, .refl _, by rw [htoken]; rfl⟩

theorem authenticate_held {token : String} (hrenew : c.renew = ⟨.ok (), c⟩)
    (htoken : c.session.accessToken = some token) : c.authenticate = ⟨.ok token, c⟩ := by
  unfold authenticate
  simp only [hrenew, htoken]

theorem authenticate_renewed (hok : c.renew.result = .ok ())
    (hrenewed : c.Renewed c.renew.connection) :
    ∃ token, c.authenticate.result = .ok token ∧
      token ∈ c.authenticate.connection.remote.accessTokens ∧
      Answering c.authenticate.connection ∧ Alike c.remote c.authenticate.connection.remote := by
  unfold authenticate
  generalize c.renew = renewed at hok hrenewed ⊢
  obtain ⟨result, c'⟩ := renewed
  obtain rfl : result = .ok () := hok
  obtain ⟨hanswering, halike, hsome⟩ := hrenewed
  obtain ⟨token, htoken⟩ : ∃ token, c'.session.accessToken = some token :=
    Option.isSome_iff_exists.mp hsome
  simp only [htoken]
  exact ⟨token, rfl, hanswering.access token htoken, hanswering, halike⟩

theorem noteFailure_answering (h : Answering c) (request : Request) (error : RemoteError) :
    Answering (c.noteFailure request error) := by
  have hdropped : Answering (c.withSession c.session.dropAccess) :=
    ⟨h.failures, h.credentials, h.username, h.password, nofun, h.refresh, h.unthrottled⟩
  simp only [noteFailure]
  split_ifs
  · exact hdropped.recordError _
  · exact h.recordError _

theorem perform_granted {request : Request} {token : String}
    (hok : c.authenticate.result = .ok token)
    (htoken : token ∈ c.authenticate.connection.remote.accessTokens)
    (hnone : c.authenticate.connection.remote.failures request.kind = 0) :
    let served := (c.authenticate.connection.remote.counted request.kind).serve request
    let d := { c.authenticate.connection with remote := served.2 }
    c.perform request =
      match served.1 with
      | .ok value => ⟨.ok value, d⟩
      | .error error => ⟨.error error, d.noteFailure request error⟩ := by
  intro served d
  have hasked : c.authenticate.connection.ask (.perform token request) = (served.1, d) :=
    congrArg (fun reply => (reply.1, { c.authenticate.connection with remote := reply.2 }))
      (Simulated.answer_perform hnone htoken)
  unfold perform
  generalize c.authenticate = authenticated at hok hasked ⊢
  obtain ⟨result, c₁⟩ := authenticated
  obtain rfl : result = .ok token := hok
  simp only [hasked]
  cases served.1 <;> rfl

/-- Once there is a good token the request is served, and the connection goes on answering. -/
theorem perform_renewed (hok : c.renew.result = .ok ()) (hrenewed : c.Renewed c.renew.connection)
    (request : Request) :
    Answering (c.perform request).connection ∧
      ∃ s, Alike c.remote s ∧ (c.perform request).result = (s.serve request).1 ∧
        (c.perform request).connection.remote = (s.serve request).2 := by
  obtain ⟨token, hok, htoken, hanswering, halike⟩ := authenticate_renewed hok hrenewed
  rw [perform_granted hok htoken (hanswering.failures request.kind)]
  generalize c.authenticate.connection = c₁ at hanswering halike ⊢
  have hserved : Answering { c₁ with
      remote := ((c₁.remote.counted request.kind).serve request).2 } := by
    obtain ⟨_, _, hsame⟩ := (c₁.remote.counted request.kind).serve_processes request
    rw [hsame]
    exact ⟨hanswering.failures, hanswering.credentials, hanswering.username, hanswering.password,
      hanswering.access, hanswering.refresh, hanswering.unthrottled⟩
  have hsame : Alike c.remote (c₁.remote.counted request.kind) :=
    halike.trans (c₁.remote.counted_alike request.kind)
  generalize c₁.remote.counted request.kind = s at hserved hsame ⊢
  cases hr : (s.serve request).1 with
  | error error => exact ⟨noteFailure_answering hserved request error, s, hsame, hr.symm, rfl⟩
  | ok value => exact ⟨hserved, s, hsame, hr.symm, rfl⟩

theorem perform_answered (h : Answering c) (request : Request) :
    Answering (c.perform request).connection ∧
      ∃ s, Alike c.remote s ∧ (c.perform request).result = (s.serve request).1 ∧
        (c.perform request).connection.remote = (s.serve request).2 := by
  obtain ⟨hok, hrenewed⟩ := renew_renews h
  exact perform_renewed hok hrenewed request

end Connection

end Simulcast
