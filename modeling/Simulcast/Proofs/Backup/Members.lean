import Mathlib.Data.List.InsertIdx
import Simulcast.Proofs.Backup.Graph

/-!
# Adding and removing outputs

An output that is added gets an id that was never given out and has no links. One that is removed
takes along the links at both of its ends, and every other link stays.
-/

namespace Simulcast

namespace Channel

open Relation

theorem new_linked (id name : String) : Linked { id, name } where
  distinct := List.nodup_nil
  below := fun o ho => nomatch ho
  symm := by
    intro a b
    constructor <;> rintro ⟨o, ho, _⟩ <;> cases ho
  acyclic := by
    intro a h
    obtain ⟨b, ⟨o, ho, _⟩, _⟩ := TransGen.head'_iff.mp h
    cases ho

theorem Linked.add {ch : Channel} (h : ch.Linked) (platform : Platform) (streamKey : String)
    (orientation : Orientation) (encoding : Encoding) :
    (ch.addOutput platform streamKey orientation encoding).2.Linked := by
  have hlinks (link : Output → Option OutputId) (hlink : ∀ o : Output,
      o.backup = none → o.primary = none → link o = none) (a b : OutputId) :
      (ch.addOutput platform streamKey orientation encoding).2.Links link a b ↔
        ch.Links link a b := by
    simp [Links, addOutput, or_and_right, exists_or, hlink]
  have hb := hlinks (·.backup) fun _ hnone _ => hnone
  have hp := hlinks (·.primary) fun _ _ hnone => hnone
  refine h.of_fewer (fun _ _ => True) ?_ ?_
    (fun a b => (hb a b).trans (iff_of_eq (and_true _)).symm)
    fun b a => (hp b a).trans (iff_of_eq (and_true _)).symm
  · refine nodup_names_append h.distinct fun o ho he => ?_
    have hlt := h.below o ho
    simp [he] at hlt
  · intro o ho
    simp only [addOutput, List.mem_append, List.mem_singleton] at ho ⊢
    obtain ho | rfl := ho
    · have := h.below o ho
      omega
    · simp

theorem Distinct.mem_eraseIdx {ch : Channel} (h : ch.Distinct) {index : Nat} {removed o : Output}
    (hr : ch.outputs[index]? = some removed) :
    o ∈ ch.outputs.eraseIdx index ↔ o ∈ ch.outputs ∧ o.id ≠ removed.id := by
  rw [List.mem_eraseIdx_iff_getElem?]
  constructor
  · rintro ⟨i, hi, ho⟩
    exact ⟨List.mem_of_getElem? ho, fun he => hi (h.index_eq ho hr he)⟩
  · rintro ⟨ho, hne⟩
    obtain ⟨i, hi⟩ := List.getElem?_of_mem ho
    refine ⟨i, fun he => hne ?_, hi⟩
    subst he
    rw [Option.some.inj (hi.symm.trans hr)]

theorem Distinct.links_drop {ch : Channel} (h : ch.Distinct) {index : Nat} {removed : Output}
    (hr : ch.outputs[index]? = some removed) {link : Output → Option OutputId}
    (hlink : ∀ o, link (unlink removed.id o) =
      if link o = some removed.id then none else link o) (a b : OutputId) :
    (ch.dropOutput index).Links link a b ↔
      ch.Links link a b ∧ a ≠ removed.id ∧ b ≠ removed.id := by
  simp only [dropOutput, hr, Links, List.mem_map, h.mem_eraseIdx hr]
  constructor
  · rintro ⟨_, ⟨o, ⟨ho, hne⟩, rfl⟩, rfl, hb⟩
    rw [hlink] at hb
    split_ifs at hb with hgone
    exact ⟨⟨o, ho, rfl, hb⟩, hne, fun he => hgone (he ▸ hb)⟩
  · rintro ⟨⟨o, ho, rfl, hb⟩, hne, hb'⟩
    refine ⟨_, ⟨o, ⟨ho, hne⟩, rfl⟩, rfl, ?_⟩
    rw [hlink, hb, if_neg fun he => hb' (Option.some.inj he)]

theorem Linked.drop {ch : Channel} (h : ch.Linked) (index : Nat) :
    (ch.dropOutput index).Linked := by
  cases hr : ch.outputs[index]? with
  | none =>
    simp only [dropOutput, hr]
    exact h
  | some removed =>
    have hout : (ch.dropOutput index).outputs =
        (ch.outputs.eraseIdx index).map (unlink removed.id) := by
      simp only [dropOutput, hr]
    have hnext : (ch.dropOutput index).nextOutput = ch.nextOutput := by
      simp only [dropOutput, hr]
    refine h.of_fewer (fun a b => a ≠ removed.id ∧ b ≠ removed.id) ?_ ?_
      (h.distinct.links_drop hr fun _ => rfl)
      fun b a => (h.distinct.links_drop hr (fun _ => rfl) b a).trans (and_congr_right' and_comm)
    · have hids : ((ch.outputs.eraseIdx index).map (unlink removed.id)).map (·.id) =
          (ch.outputs.map (·.id)).eraseIdx index := by
        rw [List.map_map, List.eraseIdx_map]
        rfl
      rw [Distinct, hout, hids]
      exact h.distinct.sublist (List.eraseIdx_sublist _ _)
    · intro o ho
      rw [hout] at ho
      obtain ⟨o', ho', rfl⟩ := List.mem_map.mp ho
      rw [hnext]
      exact h.below o' ((h.distinct.mem_eraseIdx hr).mp ho').1

theorem Linked.remove {ch ch' : Channel} (h : ch.Linked) {index : Nat}
    (hremove : ch.removeOutput index = .ok ch') : ch'.Linked :=
  removeOutput_eq hremove ▸ h.drop index

end Channel

end Simulcast
