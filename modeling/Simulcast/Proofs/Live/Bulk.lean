import Simulcast.Proofs.Failover.Restoring
import Simulcast.Proofs.Live.Visiting

/-!
# Starting and stopping many outputs

The process of a channel on the air has exactly the outputs that are enabled. A visit to a position
keeps it so: the output is enabled or disabled along with the request about it, or both stay as they
are, whatever fails. So a bulk start or stop keeps it as well, and counts the visits that failed.
-/

namespace Simulcast

open Simulated (Alike)

namespace Channel

variable {ch : Channel} {i : ProcessInfo} {index : Nat} {o : Output} {s t : Simulated}
  {c : Connection Simulated}

/-- The channel refers to this process, which has the enabled outputs and no other. -/
def Matches (ch : Channel) (i : ProcessInfo) (s : Simulated) : Prop :=
  ∃ p, p.info = i ∧ ch.Owns p s ∧ ∀ x, x ∈ p.outputIds ↔ ch.Airs x

theorem Matches.onProcess_iff (h : ch.Matches i s) (x : String) : ch.OnProcess s x ↔ ch.Airs x := by
  obtain ⟨p, _, howns, hids⟩ := h
  exact (howns.onProcess_iff x).trans (hids x)

theorem Matches.alike (h : ch.Matches i s) (hs : Alike s t) : ch.Matches i t := by
  obtain ⟨p, hinfo, howns, hids⟩ := h
  exact ⟨p, hinfo, howns.alike hs, hids⟩

theorem Matches.recordError (h : ch.Matches i s) (error : ChannelError) :
    (ch.recordError error).Matches i s := by
  obtain ⟨p, hinfo, howns, hids⟩ := h
  exact ⟨p, hinfo, howns.of_reference rfl, hids⟩

theorem matches_of_findProcess (hapart : c.remote.Apart)
    (hagreed : ∀ x, ch.OnProcess c.remote x ↔ ch.Airs x) {c' : Connection Simulated}
    (h : ch.findProcess c = (.ok i, c')) : ch.Matches i c'.remote := by
  obtain ⟨p, hinfo, hbecame⟩ := owns_of_findProcess [] hapart h
  have halike := ch.findProcess_alike c
  rw [h] at halike
  refine ⟨p, hinfo, hbecame.owns, fun x => ?_⟩
  rw [← hbecame.owns.onProcess_iff, OnProcess.of_alike halike, hagreed]

theorem Matches.start (h : ch.Matches i c.remote) (ho : ch.outputs[index]? = some o) :
    let asked := c.perform (.addOutput i.id (ch.pushed index o))
    (LiveChange.start.settle ch index asked.result).2.Matches i asked.connection.remote := by
  obtain ⟨p, rfl, howns, hids⟩ := h
  intro asked
  have hairs := airs_enabled (f := LiveChange.start.changed) ho rfl rfl
  have hadded := howns.addOutput (List.mem_singleton_self (ch.pushed index o).id)
  change (asked.result = _ ∧ _ ∧ ch.Became _ _ _ asked.connection.remote) ∨
    ∃ error, asked.result = _ ∧ _ ∧ Alike _ asked.connection.remote at hadded
  obtain ⟨hok, _, hbecame⟩ | ⟨error, herror, hconflict, hsame⟩ := hadded
  · rw [hok]
    refine ⟨p.withOutput _, rfl, hbecame.owns.of_reference rfl, fun x => ?_⟩
    rw [RunningProcess.mem_outputIds_withOutput, hids]
    exact (hairs x).symm
  · rw [herror]
    by_cases hthere : error.isConflict
    · rw [LiveChange.settle_tolerated .start hthere]
      refine ⟨p, rfl, (howns.alike hsame).of_reference rfl, fun x => ?_⟩
      rw [hairs, ← hids]
      refine ⟨.inr, ?_⟩
      rintro (rfl | hx)
      · exact hconflict hthere
      · exact hx
    · rw [LiveChange.settle_failed .start hthere]
      exact Matches.recordError ⟨p, rfl, howns.alike hsame, hids⟩ _

theorem Matches.stop (h : ch.Matches i c.remote) (ho : ch.outputs[index]? = some o) :
    let asked := c.perform (.removeOutput i.id (remoteId o.platform index))
    (LiveChange.stop.settle ch index asked.result).2.Matches i asked.connection.remote := by
  obtain ⟨p, rfl, howns, hids⟩ := h
  intro asked
  have hairs := airs_disabled (f := LiveChange.stop.changed) ho rfl rfl
  have hremoved := howns.removeOutput (List.mem_singleton_self (remoteId o.platform index))
  change (asked.result = _ ∧ ch.Became _ _ _ asked.connection.remote) ∨
    ∃ error, asked.result = _ ∧ _ ∧ Alike _ asked.connection.remote at hremoved
  obtain ⟨hok, hbecame⟩ | ⟨error, herror, hmissing, hsame⟩ := hremoved
  · rw [hok]
    refine ⟨p.withoutOutput _, rfl, hbecame.owns.of_reference rfl, fun x => ?_⟩
    rw [RunningProcess.mem_outputIds_withoutOutput, hids]
    exact (hairs x).symm
  · rw [herror]
    by_cases hgone : error.isNotFound
    · rw [LiveChange.settle_tolerated .stop hgone]
      refine ⟨p, rfl, (howns.alike hsame).of_reference rfl, fun x => ?_⟩
      rw [hairs, ← hids]
      refine ⟨fun hx => ⟨?_, hx⟩, And.right⟩
      rintro rfl
      exact hmissing hgone hx
    · rw [LiveChange.settle_failed .stop hgone]
      exact Matches.recordError ⟨p, rfl, howns.alike hsame, hids⟩ _

theorem Matches.step (h : ch.Matches i c.remote) (change : LiveChange) (index : Nat) :
    (change.step i.id index ch c).2.1.Matches i (change.step i.id index ch c).2.2.remote := by
  obtain hidle | ⟨o, ho, hw⟩ := change.idle_or_wants ch index
  · rw [LiveChange.step_idle hidle]
    exact h
  · rw [LiveChange.step_asks ho hw]
    cases change with
    | start => exact h.start ho
    | stop => exact h.stop ho

theorem Matches.tally (h : ch.Matches i c.remote) (change : LiveChange) (indices : List Nat) :
    (Channel.tally (change.step i.id) indices ch c).2.1.Matches i
      (Channel.tally (change.step i.id) indices ch c).2.2.remote :=
  tally_induction (change.step i.id) (P := fun ch c => ch.Matches i c.remote)
    (fun index _ _ h => h.step change index) indices ch c h

/-- A bulk start or stop on a channel on the air whose process has exactly the enabled outputs,
whatever positions it is given and whatever the service is made to fail. Afterwards the process has
exactly the enabled outputs again, and no other output of the channel changed. If the process is not
found, none changed at all. Otherwise the positions are visited in turn, each request is the one for
its position, and the result counts the positions that are turned away or whose request failed. -/
theorem bulk_live_agrees {ch : Channel} (ha : ch.status = .active) {c : Connection Simulated}
    (hids : (c.remote.processes.map (·.info.id)).Nodup)
    (hreferences : (c.remote.processes.map (·.info.reference)).Nodup)
    (hagreed : ∀ x, ch.OnProcess c.remote x ↔ ch.Airs x) (change : LiveChange)
    (indices : List Nat) :
    let outcome := change.bulk ch indices c
    let talk := change.bulkTalk ch indices
    let found := ch.findProcess c
    talk.run c = ((outcome.result, outcome.channel), outcome.connection) ∧
    (∀ x, outcome.channel.OnProcess outcome.connection.remote x ↔ outcome.channel.Airs x) ∧
    Within indices ch outcome.channel ∧
    (∀ error, found.1 = .error error →
      outcome.result = .error error ∧ outcome.channel.outputs = ch.outputs) ∧
    ∀ process, found.1 = .ok process →
      let visits := change.visits process.id indices ch found.2
      let failures := visits.countP (change.failed ch)
      visits.map (·.index) = indices ∧
      talk.exchanges c = ch.findTalk.exchanges c ++ visits.flatMap (·.calls) ∧
      (∀ v ∈ visits, ∀ e ∈ v.calls, change.request? process.id ch v.index = some e.request) ∧
      outcome.result = if failures = 0 then .ok () else .error (.bulk failures indices.length) := by
  intro outcome talk found
  refine ⟨LiveChange.run_bulkTalk ch c indices, ?_⟩
  rcases hfound : ch.findProcess c with ⟨error | process, c₁⟩
  · have halike := ch.findProcess_alike c
    rw [hfound] at halike
    have houtcome : outcome = _ := LiveChange.bulk_unfound ha hfound
    have hfirst : found.1 = .error error := congrArg Prod.fst hfound
    rw [houtcome, hfirst]
    refine ⟨fun x => ?_, (Within.refl _ ch).recordError error, ?_, nofun⟩
    · exact (OnProcess.of_alike halike x).trans (hagreed x)
    · rintro _ ⟨⟩
      exact ⟨rfl, rfl⟩
  · have hmatches :=
      (matches_of_findProcess ⟨hids, hreferences⟩ hagreed hfound).tally change indices
    have houtcome : outcome = _ := LiveChange.bulk_found ha hfound
    have hfirst : found = (.ok process, c₁) := hfound
    rw [houtcome, hfirst]
    refine ⟨hmatches.onProcess_iff, change.tally_within process.id ch c₁ indices, nofun, ?_⟩
    rintro _ ⟨⟩
    refine ⟨change.map_index_visits process.id ch c₁ indices,
      LiveChange.exchanges_bulkTalk ha hfound, fun v hv e he => ?_, ?_⟩
    · exact LiveChange.request_of_mem_visits process.id ch c₁ indices hv he
    · rw [LiveChange.tally_eq_countP]
      rfl

theorem bulk_live_agrees_backed :
    let ch := backedOnAir
    let outcome := ch.bulkStartOutputs [0, 1, 5] airing
    (ch.status = .active ∧ (airing.remote.processes.map (·.info.id)).Nodup ∧
      (airing.remote.processes.map (·.info.reference)).Nodup ∧
      ∀ x, ch.OnProcess airing.remote x ↔ ch.Airs x) ∧
    outcome.result = .error (.bulk 2 3) ∧
    ∀ x, outcome.channel.OnProcess outcome.connection.remote x ↔ outcome.channel.Airs x := by
  intro ch outcome
  have hids : (airing.remote.processes.map (·.info.id)).Nodup := by decide
  have hreferences : (airing.remote.processes.map (·.info.reference)).Nodup := by decide
  have hagreed (x : String) : ch.OnProcess airing.remote x ↔ ch.Airs x := by
    obtain ⟨p, hp⟩ : ∃ p, airing.remote.processes = [p] := ⟨_, rfl⟩
    have hmem : p ∈ airing.remote.processes := by rw [hp]; exact List.mem_singleton_self p
    have hrefers : ∀ p ∈ airing.remote.processes,
        ch.processReference = some p.info.reference ∧
          p.outputIds = ch.enabledOutputs.map (·.id) := by decide
    obtain ⟨hreference, houtputs⟩ := hrefers p hmem
    have howns : ch.Owns p airing.remote := ⟨hreference, hmem, hids, hreferences⟩
    rw [howns.onProcess_iff, houtputs, airs_iff_enabledOutputs]
  have hresult : outcome.result = .error (.bulk 2 3) := by decide
  obtain ⟨_, hafter, _⟩ := bulk_live_agrees rfl hids hreferences hagreed .start [0, 1, 5]
  exact ⟨⟨rfl, hids, hreferences, hagreed⟩, hresult, hafter⟩

end Channel

end Simulcast
