import Simulcast.Proofs.Channel.Outputs
import Simulcast.Proofs.Process.Confined
import Simulcast.Proofs.Run.Isolation

/-!
# What a start leaves at the service

A start may find a process that was left over, and any of its requests may fail. When it succeeds
all the same, the service holds one process under the reference of the channel: it runs, and it has
the input of the channel and what the channel pushes to its enabled outputs. Channels do not share
references, so the other processes are what they were.
-/

namespace Simulcast

namespace Channel

/-! ### Launching -/

/-- Under the reference of a channel, the service holds one process, which runs as configured. -/
structure RunsConfigured (ch : Channel) (s : Simulated) (p : RunningProcess) : Prop where
  only : s.held ch.id = [p]
  running : p.info.state = ProcessInfo.runningState
  input : p.inputUrl = ch.inputUrl
  outputs : p.outputs = ch.enabledOutputs

variable {ch : Channel} {c : Connection Simulated}

theorem launch_configured (hs : c.remote.Named) (hr : (ch.launch c).result = .ok ()) :
    ∃ p, ch.RunsConfigured (ch.launch c).connection.remote p := by
  obtain ⟨hnew, halike⟩ := launch_served hr
  obtain ⟨p, hp, hid, href, hinput, houtputs⟩ :
      ∃ p ∈ (c.remote.withProcess ch.processConfig).processes,
        p.info.id = "restreamer-" ++ toString (c.remote.processCount + 1) ∧
          p.info.reference = ch.id ∧ p.inputUrl = ch.inputUrl ∧ p.outputs = ch.enabledOutputs :=
    ⟨_, List.mem_append_right _ (List.mem_singleton_self _), rfl, rfl, rfl, rfl⟩
  have hheld := (hs.withProcess hnew).held_change hp
    (Simulated.modest_withState ProcessInfo.runningState)
  rw [hid, href] at hheld
  exact ⟨_, (halike.held ch.id).trans hheld, rfl, hinput, houtputs⟩

theorem startRemote_configured (hs : c.remote.Named) (hr : (ch.startRemote c).result = .ok ()) :
    ∃ p, ch.RunsConfigured (ch.startRemote c).connection.remote p := by
  have hdown : (ch.teardown c).2.remote.Named :=
    teardown_handled Connection.steady_named.handling ⟨fun _ _ => trivial, trivial⟩ c hs
  unfold startRemote at hr ⊢
  split_ifs at hr ⊢
  · cases hr
  · cases hr
  · generalize ch.teardown c = down at hdown hr ⊢
    obtain ⟨error | _, c'⟩ := down
    · cases hr
    · obtain ⟨p, hruns⟩ := launch_configured hdown hr
      exact ⟨p, hruns.only, hruns.running, hruns.input, hruns.outputs⟩

/-! ### Starting -/

/-- The ways to start a channel. -/
inductive Starts {σ : Type} [Service σ] (ch : Channel) (c : Connection σ) :
    Outcome σ Unit → Prop where
  | live : Starts ch c (ch.start c)
  | preview (duration : Duration) : Starts ch c (ch.startPreview duration c)

theorem Starts.operation {σ : Type} [Service σ] {ch : Channel} {c : Connection σ}
    {outcome : Outcome σ Unit} (h : ch.Starts c outcome) :
    ∃ op : Operation, (op.run ch c).connection = outcome.connection := by
  cases h with
  | live => exact ⟨.start, rfl⟩
  | preview duration => exact ⟨.startPreview duration, rfl⟩

/-- A start that succeeds launched the channel, over the connection it leaves. -/
theorem Starts.remote {σ : Type} [Service σ] {ch : Channel} {c : Connection σ}
    {outcome : Outcome σ Unit} (h : ch.Starts c outcome) (hready : ch.Startable)
    (hr : outcome.result = .ok ()) :
    (ch.startRemote c).result = .ok () ∧
      outcome.connection = (ch.startRemote c).connection ∧
      ∃ status preview, outcome.channel = { ch.launched with status, preview } := by
  have hcases := ch.startRemote_cases c
  cases h with
  | live =>
    unfold start at hr ⊢
    generalize ch.startRemote c = remote at hcases hr ⊢
    obtain ⟨result, ch', c'⟩ := remote
    rcases hready with hs | hs <;> simp only [hs] at hr ⊢ <;>
      rcases hcases with ⟨error, rfl, _⟩ | ⟨rfl, rfl⟩
    · cases hr
    · exact ⟨rfl, rfl, _, _, rfl⟩
    · cases hr
    · exact ⟨rfl, rfl, _, _, rfl⟩
  | preview duration =>
    unfold startPreview at hr ⊢
    split_ifs at hr ⊢
    generalize ch.startRemote c = remote at hcases hr ⊢
    obtain ⟨result, ch', c'⟩ := remote
    rcases hcases with ⟨error, rfl, _⟩ | ⟨rfl, rfl⟩
    · cases hr
    · exact ⟨rfl, rfl, _, _, rfl⟩

end Channel

namespace Studio

/-- Whatever occurred since a studio was new, a start of one of its channels that succeeds leaves
one process under the reference of the channel, which runs with the input of the channel and pushes
to its enabled outputs. The other processes are what they were, and of the outputs only what is
known of their connections changes. -/
theorem start_pushes_configuration (settings : Settings) (clock : Clock)
    (username password : String) (occurrences : List Occurrence) :
    let s := after occurrences (fresh settings clock username password)
    ∀ ch ∈ s.channels, ch.status = .inactive ∨ ch.status = .error →
      ∀ outcome, ch.Starts s.connection outcome → outcome.result = .ok () →
        let processes := outcome.connection.remote.processes
        (∃ p, processes.filter (·.info.reference == ch.id) = [p] ∧
          p.info.state = ProcessInfo.runningState ∧ p.inputUrl = ch.inputUrl ∧
          p.outputs = ((List.range ch.outputs.length).filter fun i =>
            ch.outputs[i]?.any (·.enabled)).filterMap ch.processOutput?) ∧
        processes.filter (·.info.reference != ch.id) =
          s.connection.remote.processes.filter (·.info.reference != ch.id) ∧
        outcome.channel.processReference = some ch.id ∧
        outcome.channel.lastError = none ∧
        outcome.channel.outputs =
          ch.outputs.map ({ · with connected := false, failures := 0, lastCheck := none }) := by
  intro s ch hch hready outcome hstart hok processes
  have hreachable : Reachable s := (Reachable.opened _).after occurrences
  have hsettled : ch.Settled := (hreachable.channel ch hch).settled
  have hnamed : s.connection.remote.Named := after_named (named_fresh _ _ _ _) occurrences
  obtain ⟨op, hconnection⟩ := hstart.operation
  have hisolated := hsettled.run_isolates op s.connection
  rw [hconnection] at hisolated
  obtain ⟨hr, hremote, _, _, hchannel⟩ := hstart.remote hready hok
  obtain ⟨p, hruns⟩ := Channel.startRemote_configured hnamed hr
  rw [← hremote] at hruns
  refine ⟨⟨p, hruns.only, hruns.running, hruns.input, ?_⟩, (hisolated hnamed).2, ?_⟩
  · rw [hruns.outputs, ch.enabledOutputs_eq]
  · rw [hchannel]
    exact ⟨rfl, rfl, rfl⟩

def stuckRun : List Occurrence :=
  startRun.map .event ++
    [.event (.failNext .command 1), .event (.operation (.onChannel "channel" .stop))]

theorem start_pushes_configuration_stuck :
    let s := after stuckRun (fresh account (.startingAt 0) "user" "secret")
    ∃ ch ∈ s.channels, ch.status = .error ∧ ch.processReference = some "channel" ∧
      let outcome := ch.start s.connection
      let processes := outcome.connection.remote.processes
      outcome.result = .ok () ∧
        (∃ p, processes.filter (·.info.reference == ch.id) = [p] ∧
          p.info.state = ProcessInfo.runningState ∧ p.inputUrl = ch.inputUrl ∧
          p.outputs = ((List.range ch.outputs.length).filter fun i =>
            ch.outputs[i]?.any (·.enabled)).filterMap ch.processOutput?) ∧
        processes.filter (·.info.reference != ch.id) =
          s.connection.remote.processes.filter (·.info.reference != ch.id) ∧
        outcome.channel.processReference = some ch.id ∧
        outcome.channel.lastError = none ∧
        outcome.channel.outputs =
          ch.outputs.map ({ · with connected := false, failures := 0, lastCheck := none }) := by
  intro s
  have hall : ∀ ch ∈ s.channels, ch.status = .error ∧ ch.processReference = some "channel" ∧
      (ch.start s.connection).result = .ok () := by decide
  obtain ⟨ch, hch⟩ := List.exists_mem_of_ne_nil s.channels (by decide)
  obtain ⟨herror, hreference, hok⟩ := hall ch hch
  exact ⟨ch, hch, herror, hreference, hok, start_pushes_configuration account (.startingAt 0) "user"
    "secret" stuckRun ch hch (.inr herror) _ .live hok⟩

end Studio

end Simulcast
