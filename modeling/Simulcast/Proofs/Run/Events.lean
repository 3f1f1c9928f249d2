import Simulcast.Proofs.Run.Accounted
import Simulcast.Proofs.Studio.Runs

/-!
# Runs at the simulated service

A run is a list of events: operations on the studio, and whatever else happens to the clock, the
tokens and the service, except that the service loses no process and changes none by itself. When
no id is generated twice, the processes of the service are accounted for all along.
-/

namespace Simulcast

namespace Studio

/-- One thing that happens in a run. -/
inductive Event where
  | operation (op : Operation)
  | setClock (clock : Clock)
  | failNext (kind : CallKind) (count : Nat)
  | announceExpiry (secs : Option Nat)
  | revokeAccess
  | revokeRefresh
  | dropOutput (id output : String)

def withRemote (s : Studio Simulated) (remote : Simulated) : Studio Simulated :=
  { s with connection := { s.connection with remote } }

namespace Event

def run (e : Event) (s : Studio Simulated) : Studio Simulated :=
  match e with
  | .operation op => (op.run s).studio
  | .setClock clock => { s with connection := { s.connection with clock } }
  | .failNext kind count => s.withRemote (s.connection.remote.failNext kind count)
  | .announceExpiry secs => s.withRemote { s.connection.remote with tokenExpiry := secs }
  | .revokeAccess => s.withRemote s.connection.remote.revokeAccess
  | .revokeRefresh => s.withRemote s.connection.remote.revokeRefresh
  | .dropOutput id output => s.withRemote (s.connection.remote.dropOutput id output).2

/-- The ids that come into the studio. -/
def generated (e : Event) (s : Studio Simulated) : List String :=
  match e with
  | .operation op => op.generated s
  | _ => []

/-- The channels whose processes are abandoned. -/
def abandoned (e : Event) (s : Studio Simulated) : List String :=
  match e with
  | .operation op => op.abandoned s
  | _ => []

end Event

theorem Reachable.event {s : Studio Simulated} (h : Reachable s) (e : Event) :
    Reachable (e.run s) := by
  cases e with
  | operation op => exact h.run op
  | _ => exact h.meet _

def runAll (events : List Event) (s : Studio Simulated) : Studio Simulated :=
  events.foldl (fun s e => e.run s) s

def along (f : Event → Studio Simulated → List String) : List Event → Studio Simulated → List String
  | [], _ => []
  | e :: rest, s => f e s ++ along f rest (e.run s)

def fresh (settings : Settings) (clock : Clock) (username password : String) :
    Studio Simulated where
  connection := .fresh settings clock { username, password }

end Studio

theorem Simulated.dropOutput_tended (s : Simulated) (id output : String) :
    ∃ reference, Tended reference s (s.dropOutput id output).2 := by
  unfold Simulated.dropOutput
  cases hf : s.find? id with
  | none => exact ⟨"", .of_alike (.refl s)⟩
  | some p =>
    have hid : p.info.id = id := by simpa using List.find?_some hf
    refine ⟨p.info.reference, .of_change ⟨p, List.mem_of_find?_eq_some hf, hid, rfl⟩
      (fun _ => rfl) fun q _ hq => nodup_withoutOutput output hq⟩

namespace Studio

namespace Accounted

variable {used left : List String}

theorem event {s : Studio Simulated} (h : Accounted used left s.channels s.connection)
    (e : Event) (hnew : ∀ id ∈ e.generated s, id ∉ used) :
    Accounted (used ++ e.generated s) (left ++ e.abandoned s) (e.run s).channels
      (e.run s).connection := by
  cases e with
  | operation op => exact h.operation op hnew
  | setClock clock =>
    simp only [Event.generated, Event.abandoned, List.append_nil]
    exact h.of_alike (.refl _)
  | failNext | announceExpiry | revokeAccess | revokeRefresh =>
    simp only [Event.generated, Event.abandoned, List.append_nil]
    exact h.of_alike ⟨rfl, rfl⟩
  | dropOutput id output =>
    obtain ⟨_, htended⟩ := Simulated.dropOutput_tended s.connection.remote id output
    simp only [Event.generated, Event.abandoned, List.append_nil]
    exact h.meet (htended.tidy h.tidy) htended.states

theorem runAll {s : Studio Simulated} (h : Accounted used left s.channels s.connection)
    (events : List Event) (hnodup : (along Event.generated events s).Nodup)
    (hnew : ∀ id ∈ along Event.generated events s, id ∉ used) :
    Accounted (used ++ along Event.generated events s) (left ++ along Event.abandoned events s)
      (Studio.runAll events s).channels (Studio.runAll events s).connection := by
  induction events generalizing used left s with
  | nil =>
    simp only [along, List.append_nil]
    exact h
  | cons e rest ih =>
    simp only [along, List.nodup_append, List.mem_append] at hnodup hnew ⊢
    have hfirst := h.event e fun id hid => hnew id (.inl hid)
    have hrest := ih hfirst hnodup.2.1 fun id hid hused => by
      obtain hused | hused := List.mem_append.mp hused
      · exact hnew id (.inr hid) hused
      · exact hnodup.2.2 id hused id hid rfl
    rw [List.append_assoc, List.append_assoc] at hrest
    exact hrest

end Accounted

/-- Whatever happens in a run from a fresh studio, its channels and the abandoned processes account
for what the service holds. -/
theorem accounted_runAll (settings : Settings) (clock : Clock) (username password : String)
    (events : List Event)
    (hnodup : (along Event.generated events (fresh settings clock username password)).Nodup) :
    Accounted (along Event.generated events (fresh settings clock username password))
      (along Event.abandoned events (fresh settings clock username password))
      (runAll events (fresh settings clock username password)).channels
      (runAll events (fresh settings clock username password)).connection := by
  have hstart : Accounted [] [] (fresh settings clock username password).channels
      (fresh settings clock username password).connection := .start rfl
  exact hstart.runAll events hnodup nofun

end Studio

end Simulcast
