import Simulcast.Proofs.Channel.Counting
import Simulcast.Proofs.Remote.Owning
import Simulcast.Proofs.Remote.Passing

/-!
# What one reconnect does

A reconnect either gives the output up, or waits once and then removes it from the process and adds
it again. It says that the output is back when it could be added, and then the process has it just
once and as the channel has it now. Whatever happens, nothing else changes at either end.
-/

namespace Simulcast

open Simulated (Alike Apart besides)

/-- A conversation moves the clock by its waits, and by nothing else. -/
theorem Talk.clock_run {α σ : Type} [Service σ] (t : Talk α) (c : Connection σ) :
    (t.run c).2.clock = (t.waits c).foldl Clock.sleep c.clock := by
  induction t generalizing c with
  | done value => rfl
  | wait delay next ih => exact ih (c.sleep delay)
  | ask request next ih =>
    rw [Talk.run, Talk.waits, ih, Connection.perform_clock]

namespace Channel

variable {σ : Type} [Service σ] {ch : Channel} {index : Nat} {o : Output}

theorem waits_findTalk (ch : Channel) (c : Connection σ) : ch.findTalk.waits c = [] := by
  unfold findTalk
  cases ch.processReference with
  | none => rfl
  | some reference =>
    simp only [Talk.waits]
    generalize (c.perform .listProcesses).result = listed
    obtain error | processes := listed
    · rfl
    · simp only
      cases processes.find? (·.reference == reference) <;> rfl

theorem waits_reconnectTalk (ha : ch.status = .active) (ho : ch.outputs[index]? = some o)
    (hs : ¬ o.Spent ch.reconnect.maxAttempts) (c : Connection σ) :
    (ch.reconnectTalk index).waits c = [ch.reconnect.delay] := by
  rw [reconnectTalk_unspent ha ho hs, Talk.waits, Talk.waits_bind, waits_findTalk, List.nil_append]
  refine congrArg (List.cons _) ?_
  generalize ch.findTalk.run (c.sleep ch.reconnect.delay) = found
  obtain ⟨error | process, c₁⟩ := found
  · rfl
  · simp only
    split_ifs
    · simp only [reissueTalk, Talk.waits]
      generalize (c₁.perform (.removeOutput process.id _)).connection = c₂
      generalize (c₂.perform (.addOutput process.id _)).result = added
      obtain error | _ := added <;> rfl
    · rfl

theorem reconnectOutput_spent (ha : ch.status = .active) (ho : ch.outputs[index]? = some o)
    (hs : o.Spent ch.reconnect.maxAttempts) (c : Connection σ) :
    let error := ChannelError.reconnectExhausted index o.failures
    let tried := ch.reconnectOutput index c
    tried.result = .error error ∧
      tried.channel = (ch.changeOutput index
        ({ · with enabled := false, connected := false })).recordError error ∧
      tried.connection = c := by
  have hspent : 0 < ch.reconnect.maxAttempts ∧ ch.reconnect.maxAttempts ≤ o.failures := hs
  simp only [reconnectOutput, ho, ha, ne_eq, not_true_eq_false, if_false, if_pos hspent, and_self]

/-! ### Over the simulated service -/

variable {p : RunningProcess} {c : Connection Simulated} {output : ProcessOutput}

/-- Removing an output from a process, as far as that works, and adding it again changes nothing
but this output. When it is added the process has it once, and otherwise it has nothing new. -/
theorem Owns.reissue (h : ch.Owns p c.remote) (output : ProcessOutput) :
    let removed := (c.perform (.removeOutput p.info.id output.id)).connection
    let added := removed.perform (.addOutput p.info.id output)
    ∃ q, q.info = p.info ∧ ch.Became [output.id] c.remote q added.connection.remote ∧
      (added.result = .ok () → q.outputs.filter (·.id == output.id) = [output]) ∧
      (∀ error, added.result = .error error → q.outputs ⊆ p.outputs) := by
  intro removed added
  obtain ⟨q, hinfo, hbecame, hsub⟩ : ∃ q, q.info = p.info ∧
      ch.Became [output.id] c.remote q removed.remote ∧ q.outputs ⊆ p.outputs := by
    have hremove := h.removeOutput (List.mem_singleton_self output.id)
    obtain ⟨_, hbecame⟩ | ⟨_, _, _, halike⟩ := hremove
    · exact ⟨p.withoutOutput output.id, rfl, hbecame, List.filter_subset_self _⟩
    · exact ⟨p, rfl, h.became halike, List.Subset.refl _⟩
  have hadd := hbecame.owns.addOutput (List.mem_singleton_self output.id)
  rw [hinfo] at hadd
  obtain ⟨hok, hnew, hadded⟩ | ⟨error, herror, _, halike⟩ := hadd
  · refine ⟨q.withOutput output, hinfo, hbecame.trans hadded,
      fun _ => RunningProcess.filter_withOutput hnew, fun error herror => ?_⟩
    cases hok.symm.trans herror
  · refine ⟨q, hinfo, hbecame.trans (hbecame.owns.became halike), fun hok => ?_, fun _ _ => hsub⟩
    cases herror.symm.trans hok

/-- The process of the channel runs and has the output at a position just once, as the channel would
push it now. -/
def Restored (ch : Channel) (index : Nat) (s : Simulated) : Prop :=
  ∃ p ∈ s.processes, ch.processReference = some p.info.reference ∧ p.info.isRunning ∧
    ∃ pushed, ch.processOutput? index = some pushed ∧
      p.outputs.filter (·.id == pushed.id) = [pushed]

theorem reconnectOutput_unspent (ha : ch.status = .active) (hapart : c.remote.Apart)
    (ho : ch.outputs[index]? = some o) (hs : ¬ o.Spent ch.reconnect.maxAttempts) :
    let tried := ch.reconnectOutput index c
    let xs := [remoteId o.platform index]
    tried.connection.remote.besides ch.processReference xs =
        c.remote.besides ch.processReference xs ∧
      ((tried.result = .ok true ∧ tried.channel.outputs[index]? = some o.markConnected ∧
          tried.channel.Restored index tried.connection.remote) ∨
        (tried.result = .ok false ∧ ∃ error, tried.channel = ch.recordError error)) := by
  have hunspent : ¬ (0 < ch.reconnect.maxAttempts ∧ ch.reconnect.maxAttempts ≤ o.failures) := hs
  have halike := ch.findProcess_alike (c.sleep ch.reconnect.delay)
  have hslept : (c.sleep ch.reconnect.delay).remote.Apart := hapart
  have howns {i c'} (h : ch.findProcess (c.sleep ch.reconnect.delay) = (.ok i, c')) :=
    owns_of_findProcess [remoteId o.platform index] hslept h
  simp only [reconnectOutput, ho, ha, ne_eq, not_true_eq_false, if_false, if_neg hunspent]
  generalize ch.findProcess (c.sleep ch.reconnect.delay) = found at halike howns ⊢
  obtain ⟨error | process, c₁⟩ := found
  · exact ⟨halike.besides _ _, .inr ⟨rfl, error, rfl⟩⟩
  · obtain ⟨p, rfl, hbecame⟩ := howns rfl
    simp only
    split_ifs with hrunning
    · obtain ⟨q, hinfo, hreissued, honce, _⟩ := hbecame.owns.reissue (ch.pushed index o)
      have hbesides := hreissued.besides.trans hbecame.besides
      have howned := hreissued.owns
      generalize (c₁.perform (.removeOutput p.info.id (ch.pushed index o).id)).connection = c₂
        at hbesides howned honce ⊢
      generalize c₂.perform (.addOutput p.info.id (ch.pushed index o)) = added
        at hbesides howned honce ⊢
      obtain ⟨error | _, c₃⟩ := added
      · exact ⟨hbesides, .inr ⟨rfl, _, rfl⟩⟩
      · have hback := getElem?_changeOutput_eq ho Output.markConnected
        refine ⟨hbesides, .inl ⟨rfl, hback, q, howned.mem, howned.refers, ?_, ?_⟩⟩
        · rw [hinfo]
          exact hrunning
        · refine ⟨ch.pushed index o, ?_, honce rfl⟩
          rw [processOutput?, hback]
          rfl
    · exact ⟨halike.besides _ _, .inr ⟨rfl, _, rfl⟩⟩

/-- The effect of one reconnect on the air. When the attempts are used up the output is given up,
without a request or a wait. Otherwise it waits once and says whether the output is back: if so, the
process runs and has it once, as the channel has it now; if not, all outputs of the channel are as
before and the error is kept. No other output changes, of the channel or at the service. -/
theorem reconnect_effect {ch : Channel} (ha : ch.status = .active) {c : Connection Simulated}
    (hids : (c.remote.processes.map (·.info.id)).Nodup)
    (hreferences : (c.remote.processes.map (·.info.reference)).Nodup) {index : Nat} {o : Output}
    (ho : ch.outputs[index]? = some o) :
    let tried := ch.reconnectOutput index c
    let talk := ch.reconnectTalk index
    let xs := [remoteId o.platform index]
    talk.run c = ((tried.result, tried.channel), tried.connection) ∧
    (o.Spent ch.reconnect.maxAttempts →
      tried.result = .error (.reconnectExhausted index o.failures) ∧
      tried.channel.outputs[index]? = some { o with enabled := false, connected := false } ∧
      talk.exchanges c = [] ∧ talk.waits c = [] ∧ tried.connection = c) ∧
    (¬ o.Spent ch.reconnect.maxAttempts →
      talk.waits c = [ch.reconnect.delay] ∧
      tried.connection.clock = c.clock.sleep ch.reconnect.delay ∧
      ((tried.result = .ok true ∧ tried.channel.outputs[index]? = some o.markConnected ∧
          tried.channel.Restored index tried.connection.remote) ∨
        (tried.result = .ok false ∧ ∃ error, tried.channel = ch.recordError error))) ∧
    Within [index] ch tried.channel ∧
    tried.connection.remote.besides ch.processReference xs =
      c.remote.besides ch.processReference xs := by
  intro tried talk xs
  have hrun := ch.run_reconnectTalk index c
  by_cases hs : o.Spent ch.reconnect.maxAttempts
  · obtain ⟨hresult, hchannel, hconnection⟩ := reconnectOutput_spent ha ho hs c
    have htalk : talk = .done _ := reconnectTalk_spent ha ho hs
    refine ⟨hrun, fun _ => ⟨hresult, ?_, ?_, ?_, hconnection⟩, absurd hs,
      reconnectOutput_within c ch index, congrArg (besides _ _ ·.remote) hconnection⟩
    · rw [hchannel]
      exact getElem?_changeOutput_eq ho _
    · rw [htalk, Talk.exchanges]
    · rw [htalk, Talk.waits]
  · have hwaits : talk.waits c = [ch.reconnect.delay] := waits_reconnectTalk ha ho hs c
    have hclock := talk.clock_run c
    rw [hrun, hwaits] at hclock
    obtain ⟨hbesides, hcases⟩ := reconnectOutput_unspent ha ⟨hids, hreferences⟩ ho hs
    exact ⟨hrun, fun hspent => absurd hspent hs, fun _ => ⟨hwaits, hclock, hcases⟩,
      reconnectOutput_within c ch index, hbesides⟩

theorem reconnect_effect_watched :
    let c := refusing 0
    let tried := watched.reconnectOutput 0 c
    (watched.status = .active ∧ (c.remote.processes.map (·.info.id)).Nodup ∧
      (c.remote.processes.map (·.info.reference)).Nodup) ∧
    ∀ o, watched.outputs[0]? = some o →
      ¬ o.Spent watched.reconnect.maxAttempts ∧ tried.result = .ok true ∧
        tried.channel.outputs[0]? = some o.markConnected ∧
        tried.channel.Restored 0 tried.connection.remote := by
  intro c tried
  have hids : (c.remote.processes.map (·.info.id)).Nodup := by decide
  have hreferences : (c.remote.processes.map (·.info.reference)).Nodup := by decide
  refine ⟨⟨rfl, hids, hreferences⟩, fun o ho => ?_⟩
  have hactive : watched.status = .active := rfl
  obtain ⟨_, _, hunspent, _⟩ := reconnect_effect hactive hids hreferences ho
  have hfew : ∀ o, watched.outputs[0]? = some o → o.failures < watched.reconnect.maxAttempts := by
    decide
  have hs : ¬ o.Spent watched.reconnect.maxAttempts := fun h => Nat.not_le.mpr (hfew o ho) h.2
  have hresult : tried.result = .ok true := by decide
  obtain ⟨_, _, ⟨_, hback, hrestored⟩ | ⟨hnot, _⟩⟩ := hunspent hs
  · exact ⟨hs, hresult, hback, hrestored⟩
  · cases hresult.symm.trans hnot

end Channel

end Simulcast
