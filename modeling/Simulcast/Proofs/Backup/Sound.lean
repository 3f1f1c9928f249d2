import Simulcast.Proofs.Backup.Linking
import Simulcast.Proofs.Backup.Members
import Simulcast.Proofs.Channel.Lifecycle
import Simulcast.Remote.Simulated

/-!
# The backup graph of a reachable channel

Every operation keeps the graph sound: most do not touch the wiring, and those that do add an output
without links, remove one, or link and unlink two. In a sound graph whoever follows the backup links
meets no output twice.
-/

namespace Simulcast

namespace Channel

open Relation

theorem Linked.duplicate {ch : Channel} (h : ch.Linked) (id name : String) :
    (ch.duplicate id name).Linked :=
  h.of_wiring (congrArg (Wiring.mk ch.nextOutput) (ends_map Output.fresh (fun _ => rfl) ch.outputs))

theorem linked_edited {σ : Type} {ch : Channel} (h : ch.Linked)
    {edit : Except ChannelError Channel} (hedit : ∀ ch', edit = .ok ch' → ch'.Linked)
    (c : Connection σ) : (Outcome.edited ch edit c).channel.Linked := by
  cases edit with
  | ok ch' => exact hedit ch' rfl
  | error error => exact h

theorem Linked.run {σ : Type} [Service σ] {ch : Channel} (h : ch.Linked) (op : Operation)
    (c : Connection σ) : (op.run ch c).channel.Linked := by
  cases hk : op.kind with
  | tending => exact h.of_wiring (wiring_eq (op.skeleton_run hk ch c))
  | lifecycle => exact op.run_of_turn (fun hturn hl => hl.of_wiring hturn.wiring_eq) hk h c
  | wiring =>
    cases op with
    | addOutput platform streamKey orientation encoding =>
      exact h.add platform streamKey orientation encoding
    | removeOutput index => exact linked_edited h (fun _ => h.remove) c
    | setOutputBackup primary backup => exact linked_edited h (fun _ => h.setBackup) c
    | removeOutputBackup primary => exact linked_edited h (fun _ => h.removeBackup) c
    | bulkRemoveOutputs indices =>
      exact bulkRemoveOutputs_induction (fun _ _ _ h => h.remove) h indices
    | _ => cases hk

theorem Reachable.linked {σ : Type} [Service σ] {ch : Channel} (h : Reachable σ ch) :
    ch.Linked := by
  induction h with
  | new id name => exact new_linked id name
  | duplicate id name _ ih => exact ih.duplicate id name
  | run op c _ ih => exact ih.run op c

/-- The id that is so many backup links on. -/
def backupAfter (ch : Channel) : Nat → OutputId → Option OutputId
  | 0, id => some id
  | n + 1, id => (ch.backupOf? id).bind (ch.backupAfter n)

theorem backupAfter_add (ch : Channel) (i j : Nat) (id : OutputId) :
    ch.backupAfter (i + j) id = (ch.backupAfter i id).bind (ch.backupAfter j) := by
  induction i generalizing id with
  | zero => simp [backupAfter]
  | succ i ih =>
    rw [Nat.succ_add, backupAfter, backupAfter]
    cases ch.backupOf? id with
    | none => rfl
    | some next => exact ih next

theorem Distinct.path_of_backupAfter {ch : Channel} (h : ch.Distinct) {n : Nat} {a c : OutputId}
    (hc : ch.backupAfter (n + 1) a = some c) : TransGen ch.HasBackup a c := by
  induction n generalizing a with
  | zero =>
    obtain ⟨next, hnext, hlast⟩ := Option.bind_eq_some_iff.mp hc
    cases hlast
    exact .single (h.backupOf?_eq_some.mp hnext)
  | succ n ih =>
    obtain ⟨next, hnext, hrest⟩ := Option.bind_eq_some_iff.mp hc
    exact .head (h.backupOf?_eq_some.mp hnext) (ih hrest)

theorem Wired.backupAfter_ne {ch : Channel} (h : ch.Wired) {i j : Nat} (hij : i < j)
    {id x : OutputId} (hi : ch.backupAfter i id = some x) : ch.backupAfter j id ≠ some x := by
  intro hj
  obtain ⟨k, rfl⟩ := Nat.exists_eq_add_of_lt hij
  rw [Nat.add_assoc, backupAfter_add, hi, Option.bind_some] at hj
  exact h.acyclic x (h.distinct.path_of_backupAfter hj)

theorem Linked.backupAfter_ne {ch : Channel} (h : ch.Linked) {i j : Nat} (hij : i < j)
    {id x : OutputId} (hi : ch.backupAfter i id = some x) : ch.backupAfter j id ≠ some x :=
  h.wired.backupAfter_ne hij hi

/-- In every reachable channel, whatever the service answered on the way, the ids of the outputs are
distinct and were all given out, each link is kept at both ends, and whoever follows the backup
links never meets an output again. -/
theorem backup_graph_sound {σ : Type} [Service σ] {ch : Channel} (h : Reachable σ ch) :
    (ch.outputs.map (·.id)).Nodup ∧
      (∀ o ∈ ch.outputs, o.id.number < ch.nextOutput) ∧
      (∀ a ∈ ch.outputs, ∀ b, a.backup = some b →
        b ≠ a.id ∧ ∃ o ∈ ch.outputs, o.id = b ∧ o.primary = some a.id) ∧
      (∀ b ∈ ch.outputs, ∀ a, b.primary = some a →
        ∃ o ∈ ch.outputs, o.id = a ∧ o.backup = some b.id) ∧
      ∀ o ∈ ch.outputs, ∀ i j x,
        ch.backupAfter i o.id = some x → ch.backupAfter j o.id = some x → i = j := by
  have hl := h.linked
  refine ⟨hl.distinct, hl.below, fun a ha b hab => ?_, fun b hb a hba => ?_, ?_⟩
  · have hlink : ch.HasBackup a.id b := ⟨a, ha, rfl, hab⟩
    refine ⟨?_, (hl.symm a.id b).mp hlink⟩
    rintro rfl
    exact hl.acyclic a.id (.single hlink)
  · exact (hl.symm a b.id).mpr ⟨b, hb, rfl, hba⟩
  · intro o _ i j x hi hj
    obtain hlt | rfl | hgt := Nat.lt_trichotomy i j
    · exact (hl.backupAfter_ne hlt hi hj).elim
    · rfl
    · exact (hl.backupAfter_ne hgt hj hi).elim

def paired (c : Connection Simulated) : Channel :=
  let add := Operation.addOutput .custom "" .auto {}
  ((Operation.setOutputBackup 0 1).run (add.run (add.run { id := "channel", name := "" } c).channel
    c).channel c).channel

theorem paired_reachable (c : Connection Simulated) : Reachable Simulated (paired c) :=
  .run _ c (.run _ c (.run _ c (.new "channel" "")))

theorem backup_graph_sound_paired :
    let ch := paired (.fresh { host := "localhost", port := 8080 } (.startingAt 0)
      { username := "", password := "" })
    ch.outputs.map (fun o => (o.backup, o.primary)) = [(some ⟨1⟩, none), (none, some ⟨0⟩)] ∧
      ∀ o ∈ ch.outputs, ∀ i j x,
        ch.backupAfter i o.id = some x → ch.backupAfter j o.id = some x → i = j :=
  ⟨by decide, (backup_graph_sound (paired_reachable _)).2.2.2.2⟩

end Channel

end Simulcast
