import Simulcast.Proofs.Process.OnAir
import Simulcast.Proofs.Channel.Previewing

/-!
# Operations of a broadcast

A channel whose outputs stay what they are is broadcast by starting, stopping and previewing it, and
by linking its outputs and switching them. On the air these operations keep the process and the
channel in agreement, and off the air they leave the service alone.
-/

namespace Simulcast.Channel

/-- The operation leaves the outputs what they are, apart from links, switches and encodings on the
air. -/
def Operation.Broadcasts : Operation → Prop
  | .start | .stop | .restart | .startPreview _ | .goLive | .cancelPreview | .checkHealth
  | .bulkStartOutputs _ | .bulkStopOutputs _ | .setEncodingLive .. | .triggerFailover _
  | .restorePrimary _ | .checkFailover | .setOutputBackup .. | .removeOutputBackup _ => True
  | _ => False

theorem faces_changeAt {f : Output → Output} (hf : ∀ o, (f o).face = o.face) (ch : Channel)
    (index : Option Nat) : (ch.changeAt index f).faces = ch.faces := by
  cases index with
  | none => rfl
  | some index => exact faces_changeOutput fun o _ => hf o

theorem faces_link (ch : Channel) (primary backup : Nat) (p b : OutputId) :
    (ch.link primary backup p b).faces = ch.faces := by
  rw [link_steps]
  rw [faces_changeOutput, faces_changeOutput, faces_changeAt, faces_changeAt] <;> intros <;> rfl

theorem faces_setOutputBackup {ch ch' : Channel} {primary backup : Nat}
    (h : ch.setOutputBackup primary backup = .ok ch') : ch'.faces = ch.faces := by
  unfold setOutputBackup at h
  split at h
  · cases h
  · cases h
  · split_ifs at h
    · cases h
      rfl
    · cases h
      exact ch.faces_link primary backup _ _

theorem faces_removeOutputBackup {ch ch' : Channel} {primary : Nat}
    (h : ch.removeOutputBackup primary = .ok ch') : ch'.faces = ch.faces := by
  unfold removeOutputBackup at h
  split_ifs at h
  split at h
  · cases h
  · cases h
    rw [faces_changeOutput, faces_changeOutput] <;> intros <;> rfl

theorem faces_edited {σ : Type} {ch : Channel} {edit : Except ChannelError Channel}
    (h : ∀ ch', edit = .ok ch' → ch'.faces = ch.faces) (c : Connection σ) :
    (Outcome.edited ch edit c).channel.faces = ch.faces := by
  cases edit with
  | ok ch' => exact h ch' rfl
  | error e => rfl

theorem Operation.Broadcasts.faces_run {op : Operation} (hop : op.Broadcasts)
    (hk : op.kind = .wiring) {σ : Type} [Service σ] (ch : Channel) (c : Connection σ) :
    (op.run ch c).channel.faces = ch.faces := by
  cases op with
  | setOutputBackup => exact faces_edited (fun _ => faces_setOutputBackup) c
  | removeOutputBackup => exact faces_edited (fun _ => faces_removeOutputBackup) c
  | addOutput | removeOutput | bulkRemoveOutputs => exact hop.elim
  | _ => cases hk

/-- On the air, every operation of a broadcast that is not one of the lifecycle keeps the process
and the channel in agreement. -/
theorem OnAir.run {i : ProcessInfo} {ch : Channel} {c : Connection Simulated} (h : OnAir i ch c)
    {op : Operation} (hop : op.Broadcasts) (hk : op.kind ≠ .lifecycle) :
    OnAir i (op.run ch c).channel (op.run ch c).connection := by
  cases hkind : op.kind with
  | lifecycle => exact (hk hkind).elim
  | wiring =>
    obtain ⟨hstanding, hc⟩ := op.run_wired hkind ch c
    have hfaces := hop.faces_run hkind ch c
    rw [hc]
    exact ⟨(congrArg Standing.status hstanding).trans h.active,
      (congrArg Standing.processReference hstanding).trans h.refers, h.running, h.linked.run op c,
      h.held, fun x => (h.agreed x).trans (airs_congr hfaces x).symm⟩
  | tending =>
    cases op with
    | setEncodingLive index encoding => exact setEncodingLive_onAir h index encoding
    | bulkStartOutputs indices =>
      exact bulkLive_onAir _ (fun index _ _ h => startOutput_onAir h index) h indices
    | bulkStopOutputs indices =>
      exact bulkLive_onAir _ (fun index _ _ h => stopOutput_onAir h index) h indices
    | triggerFailover primary => exact triggerFailover_onAir h primary
    | restorePrimary primary => exact restorePrimary_onAir h primary
    | checkFailover =>
      have hactive := h.active
      have heach := failoverEach_onAir h ch.failoverCandidates
      simp only [Operation.run, Channel.checkFailover, if_pos hactive]
      exact heach
    | checkHealth => exact checkHealth_onAir h
    | _ => obtain ⟨⟨⟩, ⟨⟩⟩ := And.intro hop hkind

theorem Operation.Broadcasts.run_offAir {op : Operation} (hop : op.Broadcasts)
    (hk : op.kind ≠ .lifecycle) {σ : Type} [Service σ] {ch : Channel} (hs : ch.status ≠ .active)
    (c : Connection σ) : (op.run ch c).connection = c := by
  have hswap (outgoing incoming : Nat) : ch.swapIfActive outgoing incoming c = (.ok (), c) :=
    if_neg hs
  cases hkind : op.kind with
  | lifecycle => exact (hk hkind).elim
  | wiring => exact (op.run_wired hkind ch c).2
  | tending =>
    cases op with
    | setEncodingLive index encoding =>
      simp only [Operation.run, Outcome.answering, Channel.setEncodingLive]
      cases ch.outputs[index]? with
      | none => rfl
      | some o => simp only [ne_eq, hs, not_false_eq_true, if_true]
    | bulkStartOutputs | bulkStopOutputs =>
      simp only [Operation.run, Outcome.answering, Channel.bulkStartOutputs,
        Channel.bulkStopOutputs, bulkLive, ne_eq, hs, not_false_eq_true, if_true]
    | triggerFailover primary =>
      simp only [Operation.run, Outcome.answering, Channel.triggerFailover, hswap]
      cases ch.outputs[primary]? with
      | none => rfl
      | some o =>
        cases ch.backupIndex? primary with
        | none => rfl
        | some backup =>
          simp only
          split_ifs <;> rfl
    | restorePrimary primary =>
      simp only [Operation.run, Outcome.answering, Channel.restorePrimary, hswap]
      cases ch.outputs[primary]? with
      | none => rfl
      | some o =>
        cases ch.backupIndex? primary with
        | none => rfl
        | some backup =>
          simp only
          split_ifs <;> rfl
    | checkFailover => simp only [Operation.run, Channel.checkFailover, hs, if_false]
    | checkHealth => simp only [Operation.run, Channel.checkHealth, hs, false_and, if_false]
    | _ => obtain ⟨⟨⟩, ⟨⟩⟩ := And.intro hop hkind

end Simulcast.Channel
