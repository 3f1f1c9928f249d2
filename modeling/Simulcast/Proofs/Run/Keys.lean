import Simulcast.Proofs.Keys.Operations
import Simulcast.Proofs.Run.Occurrences

/-!
# Runs that differ in their stream keys

Two runs from one studio, of occurrences that differ in nothing but the stream keys they bring: to
each occurrence both give the same answer, and what they leave differs in nothing but stream keys
and the addresses that hold them.
-/

namespace Simulcast

namespace Studio

/-- What an occurrence is answered with. -/
inductive Answered where
  | nothing
  | operation (result : Except ChannelError Answer)
  | session (result : Except RemoteError Unit)
  | call (asked : Call) (reply : Except RemoteError asked.Answer)
  | found (value : Bool)

namespace Occurrence

def answered (o : Occurrence) (s : Studio Simulated) : Answered :=
  match o with
  | .event (.operation op) => .operation (op.run s).result
  | .event (.dropOutput id output) => .found (s.connection.remote.dropOutput id output).1
  | .event _ => .nothing
  | .session op => .session (op.run s.connection).result
  | .call asked => .call asked (s.connection.remote.answer asked).1
  | .setProcessState id state => .found (s.connection.remote.setProcessState id state).1
  | .forgetProcess id => .found (s.connection.remote.forgetProcess id).1

def keyless : Occurrence → Occurrence
  | .event (.operation op) => .event (.operation op.keyless)
  | o => o

end Occurrence

def answers : List Occurrence → Studio Simulated → List Answered
  | [], _ => []
  | o :: rest, s => o.answered s :: answers rest (o.run s)

variable {s s' : Studio Simulated}

theorem keyless_reconnect {c c' : Connection Simulated} (h : s'.keyless = s.keyless)
    (hc : c'.veil = c.veil) :
    { s' with connection := c' }.keyless = { s with connection := c }.keyless :=
  (congrArg (fun k : Studio Veiled => { k with connection := c'.veil }) h).trans
    (congrArg (fun connection => { s.keyless with connection }) hc)

/-- Whatever befalls the service, it does not look at addresses. -/
theorem keyless_befall {f : Simulated → α × Simulated}
    (hf : ∀ r, Simulated.seen (f r.veiled) = Simulated.seen (f r)) (h : s'.keyless = s.keyless) :
    (s'.withRemote (f s'.connection.remote).2).keyless =
        (s.withRemote (f s.connection.remote).2).keyless ∧
      (f s'.connection.remote).1 = (f s.connection.remote).1 := by
  have hconnection : s'.connection.veil = s.connection.veil := congrArg (·.connection) h
  have hremote : s'.connection.remote.veiled = s.connection.remote.veiled :=
    congrArg (·.remote.state) hconnection
  have hseen : Simulated.seen (f s'.connection.remote) =
      Simulated.seen (f s.connection.remote) := by
    rw [← hf s'.connection.remote, hremote, hf]
  obtain ⟨hanswer, hveil⟩ := Prod.mk.inj hseen
  refine ⟨keyless_reconnect h ?_, hanswer⟩
  exact (congrArg (fun k : Connection Veiled =>
      { k with remote := (f s'.connection.remote).2.veil }) hconnection).trans
    (congrArg (fun remote => { s.connection.veil with remote }) hveil)

theorem keyless_adjust {f : Simulated → Simulated} (hf : ∀ r, f r.veiled = (f r).veiled)
    (h : s'.keyless = s.keyless) :
    (s'.withRemote (f s'.connection.remote)).keyless =
      (s.withRemote (f s.connection.remote)).keyless :=
  (keyless_befall (f := fun r => ((), f r))
    (fun r => Simulated.seen_eq rfl ((congrArg Simulated.veiled (hf r)).trans (f r).veiled_idem))
    h).1

theorem Occurrence.run_keyless (o : Occurrence) (h : s'.keyless = s.keyless) :
    (o.keyless.run s').keyless = (o.run s).keyless ∧ o.keyless.answered s' = o.answered s := by
  have hconnection : s'.connection.veil = s.connection.veil := congrArg (·.connection) h
  cases o with
  | event e =>
    cases e with
    | operation op =>
      have hrun : (op.keyless.run s').veil = (op.run s).veil := by
        rw [← Operation.run_keyless, op.keyless_keyless, h, Operation.run_keyless]
      obtain ⟨hresult, hstudio⟩ := Outcome.mk.inj hrun
      exact ⟨hstudio, congrArg Answered.operation hresult⟩
    | setClock clock =>
      exact ⟨keyless_reconnect h
        (congrArg (fun k : Connection Veiled => { k with clock }) hconnection), rfl⟩
    | failNext kind count =>
      exact ⟨keyless_adjust (f := (·.failNext kind count)) (fun _ => rfl) h, rfl⟩
    | announceExpiry secs =>
      exact ⟨keyless_adjust (f := fun r => { r with tokenExpiry := secs }) (fun _ => rfl) h, rfl⟩
    | revokeAccess => exact ⟨keyless_adjust (f := Simulated.revokeAccess) (fun _ => rfl) h, rfl⟩
    | revokeRefresh => exact ⟨keyless_adjust (f := Simulated.revokeRefresh) (fun _ => rfl) h, rfl⟩
    | dropOutput id output =>
      obtain ⟨hstudio, hfound⟩ := keyless_befall (f := (·.dropOutput id output))
        (fun r => r.dropOutput_veiled id output) h
      exact ⟨hstudio, congrArg Answered.found hfound⟩
  | session op =>
    have hrun : (op.run s'.connection).through Simulated.veil =
        (op.run s.connection).through Simulated.veil := by
      rw [← op.run_through Simulated.veil_faithful, ← op.run_through Simulated.veil_faithful]
      exact congrArg op.run hconnection
    obtain ⟨hresult, hleft⟩ := Connection.Outcome.mk.inj hrun
    exact ⟨keyless_reconnect h hleft, congrArg Answered.session hresult⟩
  | call asked =>
    obtain ⟨hstudio, hreply⟩ := keyless_befall (f := (·.answer asked))
      (fun r => r.answer_veiled asked) h
    exact ⟨hstudio, congrArg (Answered.call asked) hreply⟩
  | setProcessState id state =>
    obtain ⟨hstudio, hfound⟩ := keyless_befall (f := (·.setProcessState id state))
      (fun r => r.setProcessState_veiled id state) h
    exact ⟨hstudio, congrArg Answered.found hfound⟩
  | forgetProcess id =>
    obtain ⟨hstudio, hfound⟩ := keyless_befall (f := (·.forgetProcess id))
      (fun r => r.forgetProcess_veiled id) h
    exact ⟨hstudio, congrArg Answered.found hfound⟩

/-- A run answers what it answers without the keys, and leaves what it leaves without them. -/
theorem after_keyless (occurrences : List Occurrence) (h : s'.keyless = s.keyless) :
    (after (occurrences.map Occurrence.keyless) s').keyless = (after occurrences s).keyless ∧
      answers (occurrences.map Occurrence.keyless) s' = answers occurrences s := by
  induction occurrences generalizing s s' with
  | nil => exact ⟨h, rfl⟩
  | cons o rest ih =>
    obtain ⟨hrun, hanswered⟩ := o.run_keyless h
    obtain ⟨hafter, hanswers⟩ := ih hrun
    exact ⟨hafter, List.cons_eq_cons.mpr ⟨hanswered, hanswers⟩⟩

/-- Two runs over the same studio differ in nothing but the stream keys that occurrences bring. They
give the same answers, and what they leave differs in nothing but stream keys and the addresses of
the outputs that the service holds. -/
theorem keys_unseen (s : Studio Simulated) {run run' : List Occurrence}
    (h : run.map Occurrence.keyless = run'.map Occurrence.keyless) :
    answers run s = answers run' s ∧ (after run s).keyless = (after run' s).keyless := by
  have hstart : s.keyless = s.keyless := rfl
  obtain ⟨hafter, hanswers⟩ := after_keyless run hstart
  obtain ⟨hafter', hanswers'⟩ := after_keyless run' hstart
  rw [h] at hafter hanswers
  exact ⟨hanswers.symm.trans hanswers', hafter.symm.trans hafter'⟩

def keyed (streamKey : String) : List Occurrence :=
  [.event (.operation (.createChannel "show" "")),
    .event (.operation (.onChannel "show" (.addOutput .twitch streamKey .auto {}))),
    .event (.operation (.onChannel "show" .start))]

/-- The two keys are what the service is told, each with its address, and nothing else tells the two
runs apart. -/
theorem keys_unseen_keyed :
    let s := fresh account (.startingAt 0) "user" "secret"
    let pushed (s : Studio Simulated) : List (List String) :=
      s.connection.remote.processes.map fun p => p.outputs.map (·.url)
    (keyed "one").map Occurrence.keyless = (keyed "two").map Occurrence.keyless ∧
      answers (keyed "one") s = answers (keyed "two") s ∧
      (after (keyed "one") s).keyless = (after (keyed "two") s).keyless ∧
      pushed (after (keyed "one") s) = [["rtmp://live.twitch.tv/app/one"]] ∧
      pushed (after (keyed "two") s) = [["rtmp://live.twitch.tv/app/two"]] := by
  intro s pushed
  have hkeyed : (keyed "one").map Occurrence.keyless = (keyed "two").map Occurrence.keyless := rfl
  obtain ⟨hanswers, hafter⟩ := keys_unseen s hkeyed
  exact ⟨hkeyed, hanswers, hafter, by decide, by decide⟩

end Studio

end Simulcast
