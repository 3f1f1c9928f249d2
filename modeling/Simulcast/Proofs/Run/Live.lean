import Simulcast.Proofs.Run.Events

/-!
# Channels on the air and what is left of the others

As the processes of the service are accounted for, a channel on the air has exactly one, and what is
left at the service of a channel that let go of its process is what could not be deleted.
-/

namespace Simulcast

namespace Studio

/-- In a run in which no id is generated twice, every name at the service stands for one thing, and
every channel that is on the air or in a preview has exactly one process, which runs. -/
theorem live_channel_has_process (settings : Settings) (clock : Clock) (username password : String)
    (events : List Event)
    (hnodup : (along Event.generated events (fresh settings clock username password)).Nodup) :
    let s := runAll events (fresh settings clock username password)
    let processes := s.connection.remote.processes
    (processes.map (·.info.id)).Nodup ∧ (processes.map (·.info.reference)).Nodup ∧
      (∀ p ∈ processes, (p.outputs.map (·.id)).Nodup) ∧
      ∀ ch ∈ s.channels, ch.status = .active ∨ ch.status = .preview →
        ∃ p, processes.filter (·.info.reference == ch.id) = [p] ∧
          p.info.state = ProcessInfo.runningState := by
  intro s processes
  have h := accounted_runAll settings clock username password events hnodup
  refine ⟨h.tidy.ids, h.tidy.references, h.tidy.outputs, fun ch hch hlive => ?_⟩
  have hreference := (h.settled ch hch).live hlive
  exact List.map_eq_singleton_iff.mp ((h.tie ch hch).running hreference)

def startRun : List Event :=
  [.operation (.createChannel "channel" ""),
    .operation (.onChannel "channel" (.addOutput .custom "key" .auto {})),
    .operation (.onChannel "channel" .start)]

def strandedRun : List Event :=
  startRun ++ [.failNext .deleteProcess 1, .operation (.onChannel "channel" .stop)]

def account : Settings :=
  { host := "localhost", port := 8080, username := "user", password := "secret" }

theorem live_channel_has_process_started :
    let s := runAll startRun (fresh account (.startingAt 0) "user" "secret")
    let processes := s.connection.remote.processes
    s.channels.map (·.status) = [.active] ∧
      (processes.map (·.info.id)).Nodup ∧ (processes.map (·.info.reference)).Nodup ∧
      (∀ p ∈ processes, (p.outputs.map (·.id)).Nodup) ∧
      ∀ ch ∈ s.channels, ch.status = .active ∨ ch.status = .preview →
        ∃ p, processes.filter (·.info.reference == ch.id) = [p] ∧
          p.info.state = ProcessInfo.runningState :=
  ⟨by decide, live_channel_has_process account (.startingAt 0) "user" "secret" startRun
    (by decide)⟩

/-! ### Leftovers -/

theorem Accounted.leftover_iff {used left : List String} {channels : List Channel}
    {c : Connection Simulated} (h : Accounted used left channels c) {id : String}
    (hid : ∀ ch ∈ channels, ch.id = id → ch.processReference = none) :
    (∃ p ∈ c.remote.processes, p.info.reference = id) ↔ id ∈ left := by
  have hstates : c.remote.states id = if id ∈ left then [ProcessInfo.finishedState] else [] := by
    by_cases hch : ∃ ch ∈ channels, ch.id = id
    · obtain ⟨ch, hch, rfl⟩ := hch
      simpa using (h.tie ch hch).idle (hid ch hch rfl)
    · exact h.rest id fun ch hmem he => hch ⟨ch, hmem, he⟩
  constructor
  · rintro ⟨p, hp, rfl⟩
    by_contra hleft
    rw [if_neg hleft, h.tidy.states_eq hp] at hstates
    cases hstates
  · intro hleft
    rw [if_pos hleft] at hstates
    obtain ⟨p, hp, hr, _⟩ := Simulated.mem_of_states hstates
    exact ⟨p, hp, hr⟩

theorem deleteChannel_gone {s : Studio Simulated} {used left : List String}
    (h : Accounted used left s.channels s.connection) {id : String}
    (hok : (s.deleteChannel id).result = .ok ()) :
    ∀ ch ∈ (s.deleteChannel id).studio.channels, ch.id ≠ id := by
  obtain ⟨before, ch, after, hs, rfl, hchannels⟩ := deleteChannel_ok hok
  rw [hs] at h
  rw [hchannels]
  exact h.apart.1

/-- A channel that refers to no process has one at the service, and a channel that was deleted
leaves one there, exactly when a process of it was let go of that the service failed to delete. -/
theorem leftover_iff_abandoned (settings : Settings) (clock : Clock) (username password : String)
    (events : List Event)
    (hnodup : (along Event.generated events (fresh settings clock username password)).Nodup) :
    let s := runAll events (fresh settings clock username password)
    let abandoned := along Event.abandoned events (fresh settings clock username password)
    (∀ ch ∈ s.channels, ch.processReference = none →
      ((∃ p ∈ s.connection.remote.processes, p.info.reference = ch.id) ↔ ch.id ∈ abandoned)) ∧
    ∀ id, (s.deleteChannel id).result = .ok () →
      ((∃ p ∈ (s.deleteChannel id).studio.connection.remote.processes, p.info.reference = id) ↔
        id ∈ abandoned ++ (Operation.deleteChannel id).abandoned s) := by
  intro s abandoned
  have h := accounted_runAll settings clock username password events hnodup
  constructor
  · intro ch hch hnone
    refine h.leftover_iff fun ch' hch' he => ?_
    obtain rfl : ch' = ch := List.inj_on_of_nodup_map h.ids hch' hch he
    exact hnone
  · intro id hok
    have hafter := h.operation (.deleteChannel id) nofun
    exact hafter.leftover_iff fun ch hch he => (deleteChannel_gone h hok ch hch he).elim

/-- The channel was stopped and refers to no process, but its process is still there, and although
the service answers again the channel cannot be started any more. -/
theorem stranded_channel_has_process :
    let s := runAll strandedRun (fresh account (.startingAt 0) "user" "secret")
    (s.channels.map fun ch => (ch.id, ch.status, ch.processReference)) =
        [("channel", .inactive, none)] ∧
      s.connection.remote.processes.map (·.info.reference) = ["channel"] ∧
      (s.onChannel "channel" Channel.start).result =
        .error (.remote (.api 409 "process with reference channel already exists")) := by
  decide

theorem leftover_iff_abandoned_stranded :
    let s := runAll strandedRun (fresh account (.startingAt 0) "user" "secret")
    ∀ ch ∈ s.channels, ch.processReference = none →
      ((∃ p ∈ s.connection.remote.processes, p.info.reference = ch.id) ↔
        ch.id ∈ along Event.abandoned strandedRun
          (fresh account (.startingAt 0) "user" "secret")) :=
  (leftover_iff_abandoned account (.startingAt 0) "user" "secret" strandedRun (by decide)).1

end Studio

end Simulcast
