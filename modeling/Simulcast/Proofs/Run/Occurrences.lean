import Simulcast.Proofs.Run.Live
import Simulcast.Proofs.Session.Attempts

/-!
# Runs in which nothing is held back

Besides the events of a run the session may be used past the channels, somebody else may call the
service, and a process may change its state or be lost. Channels come about as they did before.
-/

namespace Simulcast

namespace Studio

/-- One thing that happens in a run in which nothing is held back. -/
inductive Occurrence where
  | event (e : Event)
  | session (op : Connection.Operation)
  | call (asked : Call)
  | setProcessState (id state : String)
  | forgetProcess (id : String)

def Occurrence.run (o : Occurrence) (s : Studio Simulated) : Studio Simulated :=
  match o with
  | .event e => e.run s
  | .session op => { s with connection := (op.run s.connection).connection }
  | .call asked => s.withRemote (s.connection.remote.answer asked).2
  | .setProcessState id state => s.withRemote (s.connection.remote.setProcessState id state).2
  | .forgetProcess id => s.withRemote (s.connection.remote.forgetProcess id).2

def after (occurrences : List Occurrence) (s : Studio Simulated) : Studio Simulated :=
  occurrences.foldl (fun s o => o.run s) s

theorem Reachable.occurrence {s : Studio Simulated} (h : Reachable s) (o : Occurrence) :
    Reachable (o.run s) := by
  cases o with
  | event e => exact h.event e
  | _ => exact h.meet _

theorem Reachable.after {s : Studio Simulated} (h : Reachable s)
    (occurrences : List Occurrence) : Reachable (Studio.after occurrences s) := by
  induction occurrences generalizing s with
  | nil => exact h
  | cons o rest ih => exact ih (h.occurrence o)

end Studio

end Simulcast
