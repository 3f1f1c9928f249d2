import Simulcast.Proofs.Remote.Passing
import Simulcast.Proofs.Session.Through

/-!
# What a session asks of the service

What a session can be asked to do is a type of values, and `Reachable` are the sessions that came
about by it. A recording service writes down the calls that it passes on to another one, and makes
no difference otherwise; so the logins and refreshes that an operation sends can be spoken of.
-/

namespace Simulcast

namespace Connection

inductive Operation where
  | login
  | refresh
  | forceLogin
  | logout
  | countFailure
  | checkThrottle
  | clearError
  | authenticate
  | perform (request : Request)
  | findProcess (reference : String)

variable {σ : Type}

def Outcome.done (o : Outcome σ α) : Outcome σ Unit := ⟨o.result.map fun _ => (), o.connection⟩

variable [Service σ]

def Operation.run (op : Operation) (c : Connection σ) : Outcome σ Unit :=
  match op with
  | .login => c.login
  | .refresh => c.refresh
  | .forceLogin => c.forceLogin
  | .logout => ⟨.ok (), c.logout⟩
  | .countFailure => ⟨.ok (), c.loginFailed⟩
  | .checkThrottle => ⟨.ok (), c.isLoginThrottled.2⟩
  | .clearError => ⟨.ok (), c.withSession c.session.clearError⟩
  | .authenticate => c.authenticate.done
  | .perform request => (c.perform request).done
  | .findProcess reference => (c.findProcess reference).done

/-- What holds along changes of the session and along every call holds along whatever the session is
asked to do. -/
theorem Operation.run_passing {R : Connection σ → Connection σ → Prop}
    (P : Passing (fun _ => True) R) (op : Operation) (c : Connection σ) :
    R c (op.run c).connection := by
  have hauth : ∀ call : Call, call.isAuthentication = true → True := fun _ _ => trivial
  have hperform (request : Request) : R c (c.perform request).connection :=
    perform_passing P hauth c request fun _ => trivial
  cases op with
  | login => exact login_passing P hauth c
  | refresh => exact refresh_passing P hauth c
  | forceLogin => exact P.trans (P.session c _) (login_passing P hauth c.logout)
  | logout | countFailure | clearError => exact P.session c _
  | checkThrottle =>
    simp only [Operation.run, isLoginThrottled]
    cases c.session.throttle? c.now with
    | none => exact P.refl c
    | some remaining => exact P.session c _
  | authenticate => exact authenticate_passing P hauth c
  | perform request => exact hperform request
  | findProcess reference =>
    change R c (c.findProcess reference).connection
    rw [findProcess_connection]
    exact hperform .listProcesses

end Connection

/-- A session that came about from a new one by operations. Each may meet any clock and any state of
the service, so nothing is assumed about the time or about what is answered. -/
inductive Session.Reachable (σ : Type) [Service σ] : Session → Prop where
  | new (settings : Settings) : Reachable σ { settings }
  | run (op : Connection.Operation) (c : Connection σ) :
      Reachable σ c.session → Reachable σ (op.run c).connection.session

/-! ### Recording calls -/

/-- A call that was sent, and whether it was granted. -/
structure Sent where
  call : Call
  granted : Bool
  deriving DecidableEq

/-- A service with a record of the calls it received. -/
structure Recorded (σ : Type) where
  remote : σ
  sent : List Sent := []

def Recorded.attempts {σ : Type} (r : Recorded σ) : List Sent :=
  r.sent.filter (·.call.isAuthentication)

instance {σ : Type} [Service σ] : Service (Recorded σ) where
  answer r call :=
    match Service.answer r.remote call with
    | (reply, remote) => (reply, { remote, sent := r.sent ++ [⟨call, reply.isOk⟩] })

namespace Connection

variable {σ : Type} [Service σ]

def recorded (c : Connection σ) : Connection (Recorded σ) where
  session := c.session
  clock := c.clock
  remote := { remote := c.remote }

def unrecorded (r : Connection (Recorded σ)) : Connection σ where
  session := r.session
  clock := r.clock
  remote := r.remote.remote

def Outcome.unrecorded (o : Outcome (Recorded σ) α) : Outcome σ α :=
  ⟨o.result, o.connection.unrecorded⟩

def Operation.attempts (op : Operation) (c : Connection σ) : List Sent :=
  (op.run c.recorded).connection.remote.attempts

/-- Seen through a map that is faithful, an operation does what it does. -/
theorem Operation.run_through {τ : Type} [Service τ] {f : σ → τ} (F : Faithful f) (op : Operation)
    (c : Connection σ) : op.run (c.through f) = (op.run c).through f := by
  cases op with
  | login => exact login_through F c
  | refresh => exact refresh_through F c
  | forceLogin => exact login_through F c.logout
  | logout | countFailure | clearError => rfl
  | checkThrottle =>
    simp only [Operation.run, isLoginThrottled, through_session, through_now]
    cases c.session.throttle? c.now <;> rfl
  | authenticate => exact congrArg Outcome.done (authenticate_through F c)
  | perform request => exact congrArg Outcome.done (perform_through F c request)
  | findProcess reference => exact congrArg Outcome.done (findProcess_through F c reference)

theorem Operation.run_unrecorded (op : Operation) (r : Connection (Recorded σ)) :
    op.run r.unrecorded = (op.run r).unrecorded := by
  have hfaithful : Faithful (Recorded.remote : Recorded σ → σ) := ⟨fun _ _ => rfl⟩
  exact op.run_through hfaithful r

end Connection

end Simulcast
