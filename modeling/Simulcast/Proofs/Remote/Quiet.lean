import Mathlib.Tactic.SplitIfs
import Simulcast.Remote.Simulated
import Simulcast.Session

/-!
# Tokens at the simulated service

What authentication costs in tokens and counters makes no difference to the processes, and no
refusal on that way says that a process is missing or already there.
-/

namespace Simulcast

namespace RemoteError

/-- An error that says nothing about what the service holds. -/
def Silent (e : RemoteError) : Prop := e.isNotFound = false ∧ e.isConflict = false

end RemoteError

namespace Simulated

/-- The same processes, whatever became of tokens and counters. -/
structure Alike (s t : Simulated) : Prop where
  processes : t.processes = s.processes
  processCount : t.processCount = s.processCount

theorem Alike.refl (s : Simulated) : Alike s s := ⟨rfl, rfl⟩

theorem Alike.trans {s t u : Simulated} (h : Alike s t) (h' : Alike t u) : Alike s u :=
  ⟨h'.processes.trans h.processes, h'.processCount.trans h.processCount⟩

theorem Alike.symm {s t : Simulated} (h : Alike s t) : Alike t s :=
  ⟨h.processes.symm, h.processCount.symm⟩

theorem Alike.find? {s t : Simulated} (h : Alike s t) (id : String) : t.find? id = s.find? id := by
  simp only [Simulated.find?, h.processes]

theorem Alike.change {s t : Simulated} (h : Alike s t) (id : String)
    (f : RunningProcess → RunningProcess) : Alike (s.change id f) (t.change id f) :=
  ⟨congrArg (changeFirst id f) h.processes, h.processCount⟩

theorem Alike.withoutProcess {s t : Simulated} (h : Alike s t) (id : String) :
    Alike (s.withoutProcess id) (t.withoutProcess id) :=
  ⟨congrArg (List.filter _) h.processes, h.processCount⟩

theorem enter_alike (s : Simulated) (kind : CallKind) : Alike s (s.enter kind).2 := by
  unfold enter
  simp only
  split_ifs <;> exact ⟨rfl, rfl⟩

/-- How a call that asks for tokens ends. -/
structure Quiet {α : Type} (s : Simulated) (reply : Reply Simulated α) : Prop where
  alike : Alike s reply.2
  silent : ∀ error, reply.1 = .error error → error.Silent

theorem login_quiet (s : Simulated) (username password : String) :
    Quiet s (s.login username password) := by
  unfold login
  split_ifs
  · exact ⟨⟨rfl, rfl⟩, nofun⟩
  · refine ⟨.refl s, ?_⟩
    rintro _ ⟨⟩
    exact ⟨rfl, rfl⟩

theorem refresh_quiet (s : Simulated) (token : String) : Quiet s (s.refresh token) := by
  unfold refresh
  split_ifs
  · exact ⟨⟨rfl, rfl⟩, nofun⟩
  · refine ⟨.refl s, ?_⟩
    rintro _ ⟨⟩
    exact ⟨rfl, rfl⟩

theorem answer_quiet (s : Simulated) (call : Call) (hcall : call.isAuthentication) :
    Quiet s (s.answer call) := by
  have henter := s.enter_alike call.kind
  unfold answer
  generalize s.enter call.kind = entered at henter ⊢
  obtain ⟨_ | _, t⟩ := entered
  · cases call with
    | login username password =>
      have h := t.login_quiet username password
      exact ⟨henter.trans h.alike, h.silent⟩
    | refresh token =>
      have h := t.refresh_quiet token
      exact ⟨henter.trans h.alike, h.silent⟩
    | perform => cases hcall
  · refine ⟨henter, ?_⟩
    rintro _ ⟨⟩
    exact ⟨rfl, rfl⟩

end Simulated

namespace Connection

open Simulated (Alike)

/-- How an operation that only sees to the tokens ends. -/
structure Quiet {α : Type} (c : Connection Simulated) (o : Outcome Simulated α) : Prop where
  alike : Alike c.remote o.connection.remote
  silent : ∀ error, o.result = .error error → error.Silent

theorem login_quiet (c : Connection Simulated) : c.Quiet c.login := by
  unfold login
  split
  · refine ⟨.refl _, ?_⟩
    rintro _ ⟨⟩
    exact ⟨rfl, rfl⟩
  · split_ifs
    · have h := c.remote.answer_quiet (.login c.session.settings.username
        c.session.settings.password) rfl
      unfold ask
      change Simulated.Quiet c.remote (Service.answer c.remote _) at h
      generalize Service.answer c.remote _ = reply at h ⊢
      obtain ⟨error | tokens, remote⟩ := reply
      · refine ⟨h.alike, ?_⟩
        rintro _ ⟨⟩
        exact h.silent error rfl
      · exact ⟨h.alike, nofun⟩
    · refine ⟨.refl _, ?_⟩
      rintro _ ⟨⟩
      exact ⟨rfl, rfl⟩

theorem refresh_alike (c : Connection Simulated) :
    Alike c.remote c.refresh.connection.remote := by
  unfold refresh
  split
  · exact .refl _
  · rename_i token _
    have h := c.remote.answer_quiet (.refresh token) rfl
    unfold ask
    change Simulated.Quiet c.remote (Service.answer c.remote _) at h
    generalize Service.answer c.remote _ = reply at h ⊢
    obtain ⟨error | tokens, remote⟩ := reply <;> exact h.alike

theorem renew_quiet (c : Connection Simulated) : c.Quiet c.renew := by
  unfold renew
  split_ifs
  · have hrefresh := c.refresh_alike
    generalize c.refresh = refreshed at hrefresh ⊢
    obtain ⟨error | _, c'⟩ := refreshed
    · have h := c'.login_quiet
      exact ⟨hrefresh.trans h.alike, h.silent⟩
    · exact ⟨hrefresh, nofun⟩
  · exact c.login_quiet
  · exact ⟨.refl _, nofun⟩

theorem authenticate_quiet (c : Connection Simulated) : c.Quiet c.authenticate := by
  have h := c.renew_quiet
  unfold authenticate
  generalize c.renew = renewed at h ⊢
  obtain ⟨error | _, c'⟩ := renewed
  · refine ⟨h.alike, ?_⟩
    rintro _ ⟨⟩
    exact h.silent error rfl
  · simp only
    cases c'.session.accessToken with
    | none =>
      refine ⟨h.alike, ?_⟩
      rintro _ ⟨⟩
      exact ⟨rfl, rfl⟩
    | some token => exact ⟨h.alike, nofun⟩

end Connection

end Simulcast
