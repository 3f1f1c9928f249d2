import Simulcast.Proofs.Channel.Lifecycle

/-!
# Channels between two operations

No turn ends in a transient status, and the process a channel refers to is its own and as its status
tells. So it is for every channel that is reachable.
-/

namespace Simulcast.Channel

variable {σ : Type} [Service σ]

/-- A channel between two operations. -/
structure Settled (ch : Channel) : Prop where
  stable : ch.status = .inactive ∨ ch.status = .active ∨ ch.status = .preview ∨ ch.status = .error
  own : ch.processReference = none ∨ ch.processReference = some ch.id
  live : ch.status = .active ∨ ch.status = .preview → ch.processReference = some ch.id
  idle : ch.status = .inactive → ch.processReference = none

theorem Settled.of_standing {ch ch' : Channel} (h : ch.Settled) (hs : ch'.standing = ch.standing) :
    ch'.Settled := by
  have hid : ch'.id = ch.id := congrArg Standing.id hs
  have hstatus : ch'.status = ch.status := congrArg Standing.status hs
  have hp : ch'.processReference = ch.processReference := congrArg Standing.processReference hs
  obtain ⟨stable, own, live, idle⟩ := h
  rw [← hid, ← hp] at own
  rw [← hstatus] at stable
  rw [← hid, ← hstatus, ← hp] at live
  rw [← hstatus, ← hp] at idle
  exact ⟨stable, own, live, idle⟩

theorem Settled.turn {ch ch' : Channel} (ht : ch.Turn ch') (h : ch.Settled) : ch'.Settled := by
  cases ht with
  | unchanged => exact h
  | notStarted error _ => exact ⟨.inr (.inr (.inr rfl)), h.own, nofun, nofun⟩
  | notStopped error _ => exact ⟨.inr (.inr (.inr rfl)), h.own, nofun, nofun⟩
  | notPreviewed error _ => exact ⟨.inr (.inr (.inr rfl)), h.own, nofun, nofun⟩
  | notLaunched error _ => exact ⟨.inr (.inr (.inr rfl)), .inl rfl, nofun, nofun⟩
  | notShown error _ => exact ⟨.inr (.inr (.inr rfl)), .inl rfl, nofun, nofun⟩
  | active _ => exact ⟨.inr (.inl rfl), .inr rfl, fun _ => rfl, nofun⟩
  | preview p _ => exact ⟨.inr (.inr (.inl rfl)), .inr rfl, fun _ => rfl, nofun⟩
  | stopped _ => exact ⟨.inl rfl, .inl rfl, nofun, fun _ => rfl⟩
  | live hs => exact ⟨.inr (.inl rfl), h.own, fun _ => h.live (.inr hs), nofun⟩

theorem settled_new (id name : String) : Settled { id, name } :=
  ⟨.inl rfl, .inl rfl, nofun, fun _ => rfl⟩

theorem settled_duplicate (ch : Channel) (id name : String) : (ch.duplicate id name).Settled :=
  ⟨.inl rfl, .inl rfl, nofun, fun _ => rfl⟩

theorem Settled.run {ch : Channel} (h : ch.Settled) (op : Operation) (c : Connection σ) :
    (op.run ch c).channel.Settled := by
  by_cases hk : op.kind = .lifecycle
  · exact op.run_of_turn Settled.turn hk h c
  · exact h.of_standing (op.standing_run hk ch c)

theorem Reachable.settled {ch : Channel} (h : Reachable σ ch) : ch.Settled := by
  induction h with
  | new id name => exact settled_new id name
  | @duplicate ch id name _ _ => exact ch.settled_duplicate id name
  | run op c _ ih => exact ih.run op c

end Simulcast.Channel
