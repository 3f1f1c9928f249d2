import Simulcast.Proofs.Remote.Answering
import Simulcast.Proofs.Remote.Owning

/-!
# Being able to authenticate

When nothing is made to fail and a connection gets a token that is accepted, it may go by a token it
holds, by a refresh or by a login. Whichever it was, the tokens that are held afterwards are good
for the requests that follow, also when they expire at once. So over such a connection a request
succeeds whenever the service has nothing against it.
-/

namespace Simulcast

open Simulated (Alike)

/-- Nothing is made to fail, and a request over the connection gets a token that is accepted. -/
structure Authenticates (c : Connection Simulated) : Prop where
  failures : ∀ kind, c.remote.failures kind = 0
  token : ∃ token, c.authenticate.result = .ok token ∧
    token ∈ c.authenticate.connection.remote.accessTokens

/-- The access token that is held is accepted, and one that has expired can be refreshed. -/
structure Tokened (c : Connection Simulated) : Prop where
  failures : ∀ kind, c.remote.failures kind = 0
  access : ∃ token, c.session.accessToken = some token ∧ token ∈ c.remote.accessTokens
  refresh : c.session.tokenExpired c.now = true →
    ∃ token, c.session.refreshToken = some token ∧ token ∈ c.remote.refreshTokens

namespace Connection

variable {c : Connection Simulated}

/-! ### Getting tokens -/

theorem ask_eq (call : Call) (h : c.remote.failures call.kind = 0) :
    c.ask call = (((c.remote.counted call.kind).respond call).1,
      { c with remote := ((c.remote.counted call.kind).respond call).2 }) :=
  congrArg (fun reply : Reply Simulated call.Answer => (reply.1, { c with remote := reply.2 }))
    (Simulated.answer_eq h)

theorem acceptTokens_tokened (h : ∀ kind, c.remote.failures kind = 0) (kind : CallKind)
    {tokens : Tokens} (haccess : tokens.access = (c.remote.counted kind).issueTokens.1.access)
    (hrefresh : ∃ token, tokens.refresh.or c.session.refreshToken = some token ∧
      token ∈ (c.remote.counted kind).issueTokens.2.refreshTokens) :
    Tokened ({ c with remote := (c.remote.counted kind).issueTokens.2 }.acceptTokens tokens) where
  failures := h
  access := by
    refine ⟨tokens.access, rfl, ?_⟩
    rw [haccess]
    exact List.mem_append_right _ List.mem_cons_self
  refresh := fun _ => hrefresh

theorem login_tokened (h : ∀ kind, c.remote.failures kind = 0) (hok : c.login.result = .ok ()) :
    Tokened c.login.connection := by
  unfold login at hok ⊢
  cases hthrottle : c.session.throttle? c.now with
  | some remaining =>
    rw [hthrottle] at hok
    cases hok
  | none =>
    simp only [hthrottle] at hok ⊢
    split_ifs at hok ⊢ with hcredentials
    have hask := ask_eq (.login c.session.settings.username c.session.settings.password) (h .login)
    simp only [hask, Simulated.respond, Simulated.login] at hok ⊢
    split_ifs at hok ⊢
    exact acceptTokens_tokened h .login rfl ⟨_, rfl, List.mem_append_right _ List.mem_cons_self⟩

/-- A refresh succeeds with a token that the service knows, and only then. -/
theorem refresh_cases (h : ∀ kind, c.remote.failures kind = 0) {token : String}
    (htoken : c.session.refreshToken = some token) :
    (∀ kind, c.refresh.connection.remote.failures kind = 0) ∧
      if token ∈ c.remote.refreshTokens then
        c.refresh.result = .ok () ∧ Tokened c.refresh.connection
      else ∃ error, c.refresh.result = .error error := by
  unfold refresh
  simp only [htoken]
  split_ifs with hmem
  · have hask : c.ask (.refresh token) =
        (.ok { (c.remote.counted .refresh).issueTokens.1 with refresh := none },
          { c with remote := (c.remote.counted .refresh).issueTokens.2 }) :=
      congrArg (fun reply => (reply.1, { c with remote := reply.2 }))
        (Simulated.answer_refresh (h .refresh) hmem)
    simp only [hask]
    exact ⟨h, trivial, acceptTokens_tokened h .refresh rfl
      ⟨token, htoken, List.mem_append_left _ hmem⟩⟩
  · have hask : c.ask (.refresh token) =
        (.error (.unauthorized "invalid refresh token"),
          { c with remote := c.remote.counted .refresh }) :=
      congrArg (fun reply => (reply.1, { c with remote := reply.2 }))
        (Simulated.answer_refresh_unknown (h .refresh) hmem)
    simp only [hask]
    exact ⟨h, _, rfl⟩

/-- A renewal that succeeds leaves good tokens, unless the one that is held has not expired. -/
theorem renew_tokened (h : ∀ kind, c.remote.failures kind = 0) (hok : c.renew.result = .ok ()) :
    Tokened c.renew.connection ∨
      (c.renew = ⟨.ok (), c⟩ ∧ c.session.tokenExpired c.now = false) := by
  unfold renew at hok ⊢
  split_ifs at hok ⊢ with hexpired hboth
  · obtain ⟨token, htoken⟩ := Option.isSome_iff_exists.mp (Bool.and_eq_true_iff.mp hboth).2
    obtain ⟨hnone, hcases⟩ := refresh_cases h htoken
    split_ifs at hcases
    · obtain ⟨hrefreshed, htokened⟩ := hcases
      generalize c.refresh = refreshed at hrefreshed htokened ⊢
      obtain ⟨result, c'⟩ := refreshed
      obtain rfl : result = .ok () := hrefreshed
      exact .inl htokened
    · obtain ⟨error, herror⟩ := hcases
      generalize c.refresh = refreshed at herror hnone hok ⊢
      obtain ⟨result, c'⟩ := refreshed
      obtain rfl : result = .error error := herror
      exact .inl (login_tokened hnone hok)
  · exact .inl (login_tokened h hok)
  · exact .inr ⟨rfl, Bool.eq_false_iff.mpr hexpired⟩

theorem authenticate_of_renew {token : String} (hok : c.renew.result = .ok ())
    (htoken : c.renew.connection.session.accessToken = some token) :
    c.authenticate = ⟨.ok token, c.renew.connection⟩ := by
  unfold authenticate
  generalize c.renew = renewed at hok htoken ⊢
  obtain ⟨result, c'⟩ := renewed
  obtain rfl : result = .ok () := hok
  have hheld : c'.session.accessToken = some token := htoken
  simp only [hheld]

theorem renew_of_authenticate {token : String} (hok : c.authenticate.result = .ok token) :
    c.renew.result = .ok () ∧ c.renew.connection.session.accessToken = some token ∧
      c.authenticate.connection = c.renew.connection := by
  unfold authenticate at hok ⊢
  generalize c.renew = renewed at hok ⊢
  obtain ⟨error | _, c'⟩ := renewed
  · cases hok
  · cases htoken : c'.session.accessToken with
    | none =>
      simp only [htoken] at hok
      cases hok
    | some held =>
      simp only [htoken] at hok ⊢
      exact ⟨trivial, congrArg some (Except.ok.inj hok), trivial⟩

end Connection

/-! ### Keeping them -/

variable {c : Connection Simulated}

theorem Tokened.authenticates (h : Tokened c) : Authenticates c := by
  obtain ⟨hnone, ⟨access, haccess, haccepted⟩, hrefresh⟩ := h
  refine ⟨hnone, ?_⟩
  cases hexpired : c.session.tokenExpired c.now with
  | false =>
    have hrenew : c.renew = ⟨.ok (), c⟩ := by simp [Connection.renew, hexpired]
    rw [Connection.authenticate_held hrenew haccess]
    exact ⟨access, rfl, haccepted⟩
  | true =>
    obtain ⟨token, htoken, hknown⟩ := hrefresh hexpired
    obtain ⟨_, hcases⟩ := Connection.refresh_cases hnone htoken
    obtain ⟨hok, htokened⟩ := (if_pos hknown).mp hcases
    have hrenew : c.renew = c.refresh := by
      simp only [Connection.renew, hexpired, haccess, htoken, Option.isSome_some, Bool.and_self,
        if_true]
      generalize c.refresh = refreshed at hok ⊢
      obtain ⟨result, c'⟩ := refreshed
      obtain rfl : result = .ok () := hok
      rfl
    obtain ⟨held, hheld, hgood⟩ := htokened.access
    rw [← hrenew] at hok hheld hgood
    rw [Connection.authenticate_of_renew hok hheld]
    exact ⟨held, rfl, hgood⟩

theorem Answering.authenticates (h : Answering c) : Authenticates c := by
  obtain ⟨hok, hrenewed⟩ := Connection.renew_renews h
  obtain ⟨token, hresult, htoken, _⟩ := Connection.authenticate_renewed hok hrenewed
  exact ⟨h.failures, token, hresult, htoken⟩

namespace Authenticates

theorem tokened (h : Authenticates c) : Tokened c.authenticate.connection := by
  obtain ⟨hnone, token, hok, htoken⟩ := h
  obtain ⟨hrenew, hheld, hsame⟩ := Connection.renew_of_authenticate hok
  rw [hsame] at htoken ⊢
  obtain htokened | ⟨hkept, hexpired⟩ := Connection.renew_tokened hnone hrenew
  · exact htokened
  · rw [hkept] at htoken hheld ⊢
    refine ⟨hnone, ⟨token, hheld, htoken⟩, fun h => ?_⟩
    exact absurd (hexpired.symm.trans h) Bool.false_ne_true

theorem perform (h : Authenticates c) (request : Request) :
    ∃ s, Alike c.remote s ∧ (c.perform request).result = (s.serve request).1 ∧
      (c.perform request).connection.remote = (s.serve request).2 ∧
      ((c.perform request).result.isOk → Authenticates (c.perform request).connection) := by
  have htokened := h.tokened
  obtain ⟨_, token, hok, htoken⟩ := h
  have halike := c.authenticate_quiet.alike
  rw [Connection.perform_granted hok htoken (htokened.failures request.kind)]
  generalize c.authenticate.connection = c₁ at htokened halike ⊢
  have hserved : Tokened { c₁ with
      remote := ((c₁.remote.counted request.kind).serve request).2 } := by
    obtain ⟨_, _, hsame⟩ := (c₁.remote.counted request.kind).serve_processes request
    rw [hsame]
    exact ⟨htokened.failures, htokened.access, htokened.refresh⟩
  refine ⟨_, halike.trans (c₁.remote.counted_alike request.kind), ?_⟩
  cases hr : ((c₁.remote.counted request.kind).serve request).1 with
  | error error => exact ⟨rfl, rfl, nofun⟩
  | ok value => exact ⟨rfl, rfl, fun _ => hserved.authenticates⟩

theorem findProcess (h : Authenticates c) (reference : String) :
    (c.findProcess reference).result =
        .ok ((c.remote.findReference? reference).map (·.info)) ∧
      Authenticates (c.findProcess reference).connection ∧
      Alike c.remote (c.findProcess reference).connection.remote := by
  obtain ⟨halike, hfound⟩ := c.findProcess_served reference
  obtain ⟨s, _, hresult, _, hnext⟩ := h.perform .listProcesses
  unfold Connection.findProcess at halike hfound ⊢
  generalize c.perform .listProcesses = listed at hresult hnext halike hfound ⊢
  obtain ⟨result, c'⟩ := listed
  obtain rfl : result = .ok (s.processes.map (·.info)) := hresult
  exact ⟨congrArg Except.ok (hfound _ rfl), hnext rfl, halike⟩

end Authenticates

/-! ### Requests about the process of a channel -/

namespace Channel

variable {ch : Channel} {p : RunningProcess} {xs : List String}

theorem Owns.findProcess (h : ch.Owns p c.remote) (ha : Authenticates c) :
    ∃ c', ch.findProcess c = (.ok p.info, c') ∧ Authenticates c' ∧ Alike c.remote c'.remote := by
  have hp : c.remote.findReference? p.info.reference = some p :=
    find?_name h.apart.references h.mem
  obtain ⟨hfound, hnext, halike⟩ := ha.findProcess p.info.reference
  simp only [Channel.findProcess, h.refers]
  rw [hp] at hfound
  generalize c.findProcess p.info.reference = found at hfound hnext halike ⊢
  obtain ⟨result, c'⟩ := found
  obtain rfl : result = .ok (some p.info) := hfound
  exact ⟨c', rfl, hnext, halike⟩

theorem Owns.addOutput_granted (h : ch.Owns p c.remote) (ha : Authenticates c) {o : ProcessOutput}
    (hx : o.id ∈ xs) (hnew : o.id ∉ p.outputIds) :
    ∃ c', c.perform (.addOutput p.info.id o) = ⟨.ok (), c'⟩ ∧ Authenticates c' ∧
      ch.Became xs c.remote (p.withOutput o) c'.remote := by
  obtain ⟨s, halike, hresult, _, hnext⟩ := ha.perform (.addOutput p.info.id o)
  have hfind := (h.alike halike).find?
  have hadded := h.addOutput hx
  generalize c.perform (.addOutput p.info.id o) = added at hresult hnext hadded ⊢
  obtain ⟨result, c'⟩ := added
  obtain ⟨rfl, _, hbecame⟩ | ⟨error, rfl, _⟩ := hadded
  · exact ⟨c', rfl, hnext rfl, hbecame⟩
  · obtain ⟨hok | ⟨_, hcarried⟩, _⟩ := Simulated.serve_addOutput hfind o
    · cases hresult.trans hok
    · exact absurd ((Simulated.Carries.of_find? hfind o.id).mp hcarried) hnew

theorem Owns.removeOutput_granted (h : ch.Owns p c.remote) (ha : Authenticates c) {x : String}
    (hx : x ∈ xs) (hthere : x ∈ p.outputIds) :
    ∃ c', c.perform (.removeOutput p.info.id x) = ⟨.ok (), c'⟩ ∧ Authenticates c' ∧
      ch.Became xs c.remote (p.withoutOutput x) c'.remote := by
  obtain ⟨s, halike, hresult, _, hnext⟩ := ha.perform (.removeOutput p.info.id x)
  have hfind := (h.alike halike).find?
  have hremoved := h.removeOutput hx
  generalize c.perform (.removeOutput p.info.id x) = removed at hresult hnext hremoved ⊢
  obtain ⟨result, c'⟩ := removed
  obtain ⟨rfl, hbecame⟩ | ⟨error, rfl, hmissing, _⟩ := hremoved
  · exact ⟨c', rfl, hnext rfl, hbecame⟩
  · obtain ⟨hok | ⟨error', herror', hnotFound⟩, _⟩ := Simulated.serve_removeOutput hfind x
    · cases hresult.trans hok
    · obtain rfl := Except.error.inj (hresult.trans herror')
      exact absurd hthere (hmissing hnotFound)

end Channel

end Simulcast
