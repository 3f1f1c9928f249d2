import Simulcast.Proofs.Channel.Settled
import Simulcast.Proofs.Studio.Operations
import Simulcast.Remote.Simulated

/-!
# What holds of every channel of a studio

What new channels have, and copying and every operation on a channel keep, all channels of a studio
have at all times. So each of them is reachable, and settled between two operations.
-/

namespace Simulcast

namespace Studio

variable {σ : Type} [Service σ]

theorem Moves.forall_channel {P : Channel → Prop}
    (hrun : ∀ ch (op : Channel.Operation) (c : Connection σ), P ch → P (op.run ch c).channel)
    {s t : List Channel × Connection σ} {abandoned : List String} (hm : Moves s abandoned t)
    (h : ∀ ch ∈ s.1, P ch) : ∀ ch ∈ t.1, P ch := by
  induction hm with
  | none => exact h
  | more hfirst _ ih =>
    apply ih
    cases hfirst with
    | run before after ch op c =>
      obtain ⟨hch, hothers⟩ := forall_split.mp h
      exact forall_split.mpr ⟨hrun ch op c hch, hothers⟩
    | drop before after ch c hidle => exact (forall_split.mp h).2

/-- What holds of new channels, and is kept by copying and by every operation on a channel, is kept
for all channels by every operation on the studio. -/
theorem Operation.forall_channel {P : Channel → Prop} (hnew : ∀ id name, P { id, name })
    (hcopy : ∀ ch id name, P ch → P (ch.duplicate id name))
    (hrun : ∀ ch (op : Channel.Operation) (c : Connection σ), P ch → P (op.run ch c).channel)
    (op : Operation) {s : Studio σ} (h : ∀ ch ∈ s.channels, P ch) :
    ∀ ch ∈ (op.run s).studio.channels, P ch := by
  obtain ⟨_, hmoves⟩ | ⟨added, hadded, _, _, hs⟩ := op.moves_or_adds s
  · exact hmoves.forall_channel hrun h
  · rw [hs]
    intro ch hch
    obtain hch | hch := List.mem_append.mp hch
    · exact h ch hch
    · obtain rfl := List.mem_singleton.mp hch
      cases hadded with
      | new id name => exact hnew id name
      | copy hmem id name => exact hcopy _ id name (h _ hmem)

/-- A studio that came about from an empty one by operations. Between two of them the connection may
become any other, so nothing is assumed about the service, the tokens or the clock. -/
inductive Reachable : Studio σ → Prop where
  | opened (c : Connection σ) : Reachable { connection := c }
  | meet {s : Studio σ} (c : Connection σ) : Reachable s → Reachable { s with connection := c }
  | run {s : Studio σ} (op : Operation) : Reachable s → Reachable (op.run s).studio

theorem Reachable.channel {s : Studio σ} (h : Reachable s) :
    ∀ ch ∈ s.channels, Channel.Reachable σ ch := by
  induction h with
  | opened c => exact fun _ => nofun
  | meet c _ ih => exact ih
  | run op _ ih =>
    exact op.forall_channel .new (fun _ id name => .duplicate id name)
      (fun _ op c => .run op c) ih

/-- Between two operations every channel is at rest in one of four statuses. It refers to its own
process or to none: to its own when it is on the air or in a preview, and to none when it is
inactive. -/
theorem channels_settled {s : Studio σ} (h : Reachable s) :
    ∀ ch ∈ s.channels,
      (ch.status = .inactive ∨ ch.status = .active ∨ ch.status = .preview ∨ ch.status = .error) ∧
        (ch.processReference = none ∨ ch.processReference = some ch.id) ∧
        (ch.status = .active ∨ ch.status = .preview → ch.processReference = some ch.id) ∧
        (ch.status = .inactive → ch.processReference = none) := by
  intro ch hch
  have hs := (h.channel ch hch).settled
  exact ⟨hs.stable, hs.own, hs.live, hs.idle⟩

theorem Reachable.runs {s : Studio σ} (h : Reachable s) (ops : List Operation) :
    Reachable (ops.foldl (fun s op => (op.run s).studio) s) := by
  induction ops generalizing s with
  | nil => exact h
  | cons op rest ih => exact ih (.run op h)

def opened : Studio Simulated where
  connection := .fresh
    { host := "localhost", port := 8080, username := "user", password := "secret" }
    (.startingAt 0) { username := "user", password := "secret" }

def onAir : Studio Simulated :=
  [.createChannel "channel" "", .onChannel "channel" (.addOutput .custom "key" .auto {}),
    .onChannel "channel" .start].foldl (fun s (op : Operation) => (op.run s).studio) opened

theorem channels_settled_onAir :
    onAir.channels.map (·.status) = [.active] ∧
      ∀ ch ∈ onAir.channels,
        (ch.status = .inactive ∨ ch.status = .active ∨ ch.status = .preview ∨ ch.status = .error) ∧
          (ch.processReference = none ∨ ch.processReference = some ch.id) ∧
          (ch.status = .active ∨ ch.status = .preview → ch.processReference = some ch.id) ∧
          (ch.status = .inactive → ch.processReference = none) :=
  ⟨by decide, channels_settled (.runs (.opened opened.connection) _)⟩

end Studio

end Simulcast
