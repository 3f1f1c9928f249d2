import Mathlib.Logic.Relation
import Simulcast.Proofs.Channel.Skeleton
import Simulcast.Proofs.Names

/-!
# The backup graph

The outputs of a channel are the nodes and their backup links the edges. The graph is sound when the
ids are distinct, every link is kept at both ends, and no chain of backups comes back to where it
has been. All of this is a matter of the wiring alone.
-/

namespace Simulcast

namespace Channel

open Relation

/-- The link of this kind at the output `a` names `b`. -/
def Links (link : Output → Option OutputId) (ch : Channel) (a b : OutputId) : Prop :=
  ∃ o ∈ ch.outputs, o.id = a ∧ link o = some b

abbrev HasBackup (ch : Channel) : OutputId → OutputId → Prop := ch.Links (·.backup)

abbrev HasPrimary (ch : Channel) : OutputId → OutputId → Prop := ch.Links (·.primary)

def Distinct (ch : Channel) : Prop := (ch.outputs.map (·.id)).Nodup

/-- The backup graph is sound. -/
structure Linked (ch : Channel) : Prop where
  distinct : ch.Distinct
  below : ∀ o ∈ ch.outputs, o.id.number < ch.nextOutput
  symm : ∀ a b, ch.HasBackup a b ↔ ch.HasPrimary b a
  acyclic : ∀ a, ¬ TransGen ch.HasBackup a a

/-- The graph as it stands is sound, whatever id the next output gets. -/
structure Wired (ch : Channel) : Prop where
  distinct : ch.Distinct
  symm : ∀ a b, ch.HasBackup a b ↔ ch.HasPrimary b a
  acyclic : ∀ a, ¬ TransGen ch.HasBackup a a

theorem Linked.wired {ch : Channel} (h : ch.Linked) : ch.Wired := ⟨h.distinct, h.symm, h.acyclic⟩

theorem Distinct.eq_of_id {ch : Channel} (h : ch.Distinct) {o o' : Output} (ho : o ∈ ch.outputs)
    (ho' : o' ∈ ch.outputs) (he : o.id = o'.id) : o = o' :=
  List.inj_on_of_nodup_map h ho ho' he

theorem Distinct.index_eq {ch : Channel} (h : ch.Distinct) {i j : Nat} {o o' : Output}
    (ho : ch.outputs[i]? = some o) (ho' : ch.outputs[j]? = some o') (he : o.id = o'.id) :
    i = j := by
  have hids : (ch.outputs.map (·.id))[i]? = (ch.outputs.map (·.id))[j]? := by
    simp [ho, ho', he]
  have hlt : i < (ch.outputs.map (·.id)).length := by
    simpa using (List.getElem?_eq_some_iff.mp ho).1
  exact (List.getElem?_inj hlt h).mp hids

theorem Distinct.links_iff {ch : Channel} (h : ch.Distinct) {link : Output → Option OutputId}
    {o : Output} (ho : o ∈ ch.outputs) {b : OutputId} : ch.Links link o.id b ↔ link o = some b := by
  constructor
  · rintro ⟨o', ho', he, hb⟩
    rwa [← h.eq_of_id ho' ho he]
  · exact fun hb => ⟨o, ho, rfl, hb⟩

theorem Distinct.links_unique {ch : Channel} (h : ch.Distinct) {link : Output → Option OutputId}
    {a b b' : OutputId} (hb : ch.Links link a b) (hb' : ch.Links link a b') : b = b' := by
  obtain ⟨o, ho, rfl, he⟩ := hb
  exact Option.some.inj (he.symm.trans ((h.links_iff ho).mp hb'))

theorem Distinct.eq_of_link {ch : Channel} (h : ch.Distinct) {o o' : Output} (ho : o ∈ ch.outputs)
    (ho' : o' ∈ ch.outputs) {link : Option OutputId} (hlink : link = some o.id)
    (hlink' : link = some o'.id) : o = o' :=
  h.eq_of_id ho ho' (Option.some.inj (hlink.symm.trans hlink'))

theorem Linked.backup_iff_primary {ch : Channel} (h : ch.Linked) {o o' : Output}
    (ho : o ∈ ch.outputs) (ho' : o' ∈ ch.outputs) :
    o.backup = some o'.id ↔ o'.primary = some o.id := by
  rw [← h.distinct.links_iff ho, ← h.distinct.links_iff ho']
  exact h.symm o.id o'.id

/-! ### The graph is a matter of the wiring -/

theorem links_iff_ends (ch : Channel) (link : OutputId × Option OutputId × Option OutputId →
    Option OutputId) (a b : OutputId) :
    ch.Links (fun o => link o.ends) a b ↔ ∃ e ∈ ch.wiring.ends, e.1 = a ∧ link e = some b := by
  constructor
  · rintro ⟨o, ho, ha, hb⟩
    exact ⟨o.ends, List.mem_map_of_mem ho, ha, hb⟩
  · rintro ⟨_, he, ha, hb⟩
    obtain ⟨o, ho, rfl⟩ := List.mem_map.mp he
    exact ⟨o, ho, ha, hb⟩

theorem ids_eq_ends (ch : Channel) : ch.outputs.map (·.id) = ch.wiring.ends.map Prod.fst := by
  simp [wiring, Output.ends]

theorem Linked.of_wiring {ch ch' : Channel} (h : ch.Linked) (hw : ch'.wiring = ch.wiring) :
    ch'.Linked := by
  have hlinks (link : OutputId × Option OutputId × Option OutputId → Option OutputId) :
      ch'.Links (fun o => link o.ends) = ch.Links (fun o => link o.ends) := by
    funext a b
    rw [links_iff_ends, links_iff_ends, hw]
  have hb : ch'.HasBackup = ch.HasBackup := hlinks fun e => e.2.1
  have hp : ch'.HasPrimary = ch.HasPrimary := hlinks fun e => e.2.2
  have hids : ch'.outputs.map (·.id) = ch.outputs.map (·.id) := by
    rw [ids_eq_ends, ids_eq_ends, hw]
  have hnext : ch'.nextOutput = ch.nextOutput := congrArg Wiring.nextOutput hw
  constructor
  · rw [Distinct, hids]
    exact h.distinct
  · intro o ho
    have hmem : o.id ∈ ch.outputs.map (·.id) := hids ▸ List.mem_map_of_mem ho
    obtain ⟨o', ho', he⟩ := List.mem_map.mp hmem
    rw [hnext, ← he]
    exact h.below o' ho'
  · rw [hb, hp]
    exact h.symm
  · rw [hb]
    exact h.acyclic

/-- A channel with some of the links, each kept or gone at both ends, is linked as well. -/
theorem Linked.of_fewer {ch ch' : Channel} (h : ch.Linked) (Kept : OutputId → OutputId → Prop)
    (hd : ch'.Distinct) (hlt : ∀ o ∈ ch'.outputs, o.id.number < ch'.nextOutput)
    (hb : ∀ a b, ch'.HasBackup a b ↔ ch.HasBackup a b ∧ Kept a b)
    (hp : ∀ b a, ch'.HasPrimary b a ↔ ch.HasPrimary b a ∧ Kept a b) : ch'.Linked where
  distinct := hd
  below := hlt
  symm := fun a b => (hb a b).trans ((and_congr_left' (h.symm a b)).trans (hp b a).symm)
  acyclic := fun a ha =>
    h.acyclic a (TransGen.mono (fun x y hxy => ((hb x y).mp hxy).1) a a ha)

end Channel

end Simulcast
