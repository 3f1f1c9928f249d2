import Mathlib.Tactic.SplitIfs
import Simulcast.Remote.Simulated
import Simulcast.Session

/-!
# What requests leave alone

A request changes the session, and asks the service for tokens and for what it is about. A relation
between connections that holds along these holds along the request. So no request moves the clock,
and none is counted as another.
-/

namespace Simulcast

namespace Connection

variable {σ : Type} [Service σ] {c : Connection σ}

theorem findProcess_result (reference : String) :
    (c.findProcess reference).result =
      (c.perform .listProcesses).result.map fun ps => ps.find? (·.reference == reference) := by
  unfold findProcess
  rcases c.perform .listProcesses with ⟨error | processes, c'⟩ <;> rfl

theorem findProcess_connection (reference : String) :
    (c.findProcess reference).connection = (c.perform .listProcesses).connection := by
  unfold findProcess
  rcases c.perform .listProcesses with ⟨error | processes, c'⟩ <;> rfl

/-- A relation that holds along changes of the session and along these calls. -/
structure Passing (calls : Call → Prop) (R : Connection σ → Connection σ → Prop) : Prop where
  refl : ∀ c, R c c
  trans : ∀ {a b c}, R a b → R b c → R a c
  session : ∀ c s, R c (c.withSession s)
  ask : ∀ c call, calls call → R c (c.ask call).2

variable {calls : Call → Prop} {R : Connection σ → Connection σ → Prop}

theorem login_passing (P : Passing calls R) (hauth : ∀ call, call.isAuthentication → calls call)
    (c : Connection σ) : R c c.login.connection := by
  unfold login
  split
  · exact P.session c _
  · split_ifs
    · have hask := P.ask c (.login c.session.settings.username c.session.settings.password)
        (hauth _ rfl)
      generalize c.ask (.login c.session.settings.username _) = reply at hask ⊢
      obtain ⟨error | tokens, c'⟩ := reply <;> exact P.trans hask (P.session c' _)
    · exact P.session c _

theorem refresh_passing (P : Passing calls R) (hauth : ∀ call, call.isAuthentication → calls call)
    (c : Connection σ) : R c c.refresh.connection := by
  unfold refresh
  split
  · exact P.session c _
  · rename_i token _
    have hask := P.ask c (.refresh token) (hauth _ rfl)
    generalize c.ask (.refresh token) = reply at hask ⊢
    obtain ⟨error | tokens, c'⟩ := reply <;> exact P.trans hask (P.session c' _)

theorem authenticate_passing (P : Passing calls R)
    (hauth : ∀ call, call.isAuthentication → calls call) (c : Connection σ) :
    R c c.authenticate.connection := by
  have hrenew : R c c.renew.connection := by
    unfold renew
    split_ifs
    · have hrefresh := refresh_passing P hauth c
      generalize c.refresh = refreshed at hrefresh ⊢
      obtain ⟨error | _, c'⟩ := refreshed
      · exact P.trans hrefresh (login_passing P hauth c')
      · exact hrefresh
    · exact login_passing P hauth c
    · exact P.refl c
  unfold authenticate
  generalize c.renew = renewed at hrenew ⊢
  obtain ⟨error | _, c'⟩ := renewed
  · exact hrenew
  · simp only
    split <;> exact hrenew

/-- What changes of the session, authentication and the request itself keep is kept by performing
the request. -/
theorem perform_passing (P : Passing calls R) (hauth : ∀ call, call.isAuthentication → calls call)
    (c : Connection σ) (request : Request) (hcall : ∀ token, calls (.perform token request)) :
    R c (c.perform request).connection := by
  have h := authenticate_passing P hauth c
  unfold perform
  generalize c.authenticate = authenticated at h ⊢
  obtain ⟨error | token, c₁⟩ := authenticated
  · exact h
  · have hask := P.ask c₁ (.perform token request) (hcall token)
    simp only
    generalize c₁.ask (.perform token request) = reply at hask ⊢
    obtain ⟨error | value, c₂⟩ := reply
    · exact P.trans h (P.trans hask (P.session c₂ _))
    · exact P.trans h hask

theorem perform_clock (c : Connection σ) (request : Request) :
    (c.perform request).connection.clock = c.clock := by
  have hpassing : Passing (fun _ => True) fun c c' : Connection σ => c'.clock = c.clock :=
    { refl := fun _ => rfl
      trans := fun h h' => Eq.trans h' h
      session := fun _ _ => rfl
      ask := fun _ _ _ => rfl }
  exact perform_passing hpassing (fun _ _ => trivial) c request fun _ => trivial

theorem findProcess_clock (c : Connection σ) (reference : String) :
    (c.findProcess reference).connection.clock = c.clock := by
  rw [findProcess_connection, perform_clock]

end Connection

/-! ### Counting calls -/

theorem Simulated.serve_processes (s : Simulated) (request : Request) :
    ∃ processes processCount, (s.serve request).2 = { s with processes, processCount } := by
  cases request with
  | listProcesses => exact ⟨_, _, rfl⟩
  | createProcess config =>
    simp only [Simulated.serve, Simulated.create]
    split_ifs <;> exact ⟨_, _, rfl⟩
  | getProcess id | getOutputs id | command id _ | deleteProcess id =>
    simp only [Simulated.serve]
    cases s.find? id <;> exact ⟨_, _, rfl⟩
  | addOutput id _ | removeOutput id _ =>
    simp only [Simulated.serve]
    cases s.find? id with
    | none => exact ⟨_, _, rfl⟩
    | some p =>
      simp only
      split_ifs <;> exact ⟨_, _, rfl⟩

theorem Simulated.answer_calls (s : Simulated) (call : Call) {kind : CallKind}
    (hkind : call.kind ≠ kind) : (s.answer call).2.calls kind = s.calls kind := by
  have henter : (s.enter call.kind).2.calls kind = s.calls kind := by
    unfold enter
    simp only
    split_ifs <;> exact if_neg fun he => hkind he.symm
  have hrespond (t : Simulated) : (t.respond call).2.calls = t.calls := by
    cases call with
    | login username password =>
      simp only [Simulated.respond, Simulated.login]
      split_ifs <;> rfl
    | refresh token =>
      simp only [Simulated.respond, Simulated.refresh]
      split_ifs <;> rfl
    | perform token request =>
      simp only [Simulated.respond]
      split_ifs
      · obtain ⟨_, _, hserved⟩ := t.serve_processes request
        rw [hserved]
      · rfl
  unfold answer
  generalize s.enter call.kind = entered at henter ⊢
  obtain ⟨_ | _, t⟩ := entered
  · exact (congrFun (hrespond t) kind).trans henter
  · exact henter

namespace Connection

/-- A request is counted under its own kind only, besides what it takes to get a token. -/
theorem perform_calls (c : Connection Simulated) (request : Request) {kind : CallKind}
    (hkind : kind ≠ .login ∧ kind ≠ .refresh ∧ kind ≠ request.kind) :
    (c.perform request).connection.remote.calls kind = c.remote.calls kind := by
  obtain ⟨hlogin, hrefresh, hrequest⟩ := hkind
  have hpassing : Passing (fun call => call.kind ≠ kind) fun c c' : Connection Simulated =>
      c'.remote.calls kind = c.remote.calls kind :=
    { refl := fun _ => rfl
      trans := fun h h' => Eq.trans h' h
      session := fun _ _ => rfl
      ask := fun c call hcall => c.remote.answer_calls call hcall }
  refine perform_passing hpassing (fun call hcall => ?_) c request fun _ => hrequest.symm
  cases call with
  | login => exact hlogin.symm
  | refresh => exact hrefresh.symm
  | perform => cases hcall

theorem findProcess_calls (c : Connection Simulated) (reference : String) {kind : CallKind}
    (hkind : kind ≠ .login ∧ kind ≠ .refresh ∧ kind ≠ .listProcesses) :
    (c.findProcess reference).connection.remote.calls kind = c.remote.calls kind := by
  rw [findProcess_connection]
  exact c.perform_calls .listProcesses hkind

end Connection

end Simulcast
