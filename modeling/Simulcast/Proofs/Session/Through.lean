import Mathlib.Tactic.SplitIfs
import Simulcast.Session

/-!
# A service seen through a map

When a map between services takes every answer along, a session makes no difference between the
service and its image: whatever is asked, the results are the same, and what is left of the one
service is taken to what is left of the other.
-/

namespace Simulcast

variable {σ τ : Type}

namespace Connection

def through (f : σ → τ) (c : Connection σ) : Connection τ where
  session := c.session
  clock := c.clock
  remote := f c.remote

def Outcome.through (f : σ → τ) (o : Outcome σ α) : Outcome τ α :=
  ⟨o.result, o.connection.through f⟩

variable (f : σ → τ) (c : Connection σ)

@[simp] theorem through_session : (c.through f).session = c.session := rfl

@[simp] theorem through_now : (c.through f).now = c.now := rfl

end Connection

variable [Service σ] [Service τ]

/-- The image of the service gives every answer that the service gives. -/
structure Faithful (f : σ → τ) : Prop where
  answer : ∀ s call,
    Service.answer (f s) call = ((Service.answer s call).1, f (Service.answer s call).2)

namespace Connection

variable {f : σ → τ} (F : Faithful f) (c : Connection σ)

include F

theorem ask_through (call : Call) :
    (c.through f).ask call = ((c.ask call).1, (c.ask call).2.through f) :=
  congrArg (fun reply => (reply.1, { c.through f with remote := reply.2 })) (F.answer c.remote call)

theorem login_through : (c.through f).login = c.login.through f := by
  unfold login
  simp only [through_session, through_now]
  cases c.session.throttle? c.now with
  | some remaining => rfl
  | none =>
    simp only [ask_through F]
    by_cases hcredentials : c.session.settings.hasCredentials
    · simp only [hcredentials, if_true]
      rcases c.ask (.login c.session.settings.username c.session.settings.password) with
        ⟨error | tokens, c'⟩ <;> rfl
    · simp only [hcredentials]
      rfl

theorem refresh_through : (c.through f).refresh = c.refresh.through f := by
  unfold refresh
  simp only [through_session]
  cases c.session.refreshToken with
  | none => rfl
  | some token =>
    simp only [ask_through F]
    rcases c.ask (.refresh token) with ⟨error | tokens, c'⟩ <;> rfl

theorem renew_through : (c.through f).renew = c.renew.through f := by
  unfold renew
  simp only [through_session, through_now, refresh_through F, login_through F]
  split_ifs
  · rcases c.refresh with ⟨error | _, c'⟩
    · exact login_through F c'
    · rfl
  · rfl
  · rfl

theorem authenticate_through : (c.through f).authenticate = c.authenticate.through f := by
  unfold authenticate
  simp only [renew_through F]
  rcases c.renew with ⟨error | _, c'⟩
  · rfl
  · simp only [Outcome.through, through_session]
    cases c'.session.accessToken <;> rfl

theorem perform_through (request : Request) :
    (c.through f).perform request = (c.perform request).through f := by
  unfold perform
  simp only [authenticate_through F]
  rcases c.authenticate with ⟨error | token, c₁⟩
  · rfl
  · simp only [Outcome.through, ask_through F]
    rcases c₁.ask (.perform token request) with ⟨error | value, c₂⟩ <;> rfl

theorem findProcess_through (reference : String) :
    (c.through f).findProcess reference = (c.findProcess reference).through f := by
  unfold findProcess
  simp only [perform_through F]
  rcases c.perform .listProcesses with ⟨error | processes, c'⟩ <;> rfl

end Connection

end Simulcast
