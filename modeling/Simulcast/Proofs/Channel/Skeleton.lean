import Mathlib.Tactic.SplitIfs
import Simulcast.Operation

/-!
# What the operations on a channel leave alone

The standing of a channel is its identity, its place in the lifecycle and the process it refers to;
its wiring is the ids of its outputs with the links between them. Most operations keep both. Those
of the lifecycle keep the wiring, and those that add, remove or link outputs keep the standing.
-/

namespace Simulcast

namespace Output

def ends (o : Output) : OutputId × Option OutputId × Option OutputId := (o.id, o.backup, o.primary)

end Output

structure Standing where
  id : String
  status : Status
  processReference : Option String
  preview : Option Preview

structure Wiring where
  nextOutput : Nat
  ends : List (OutputId × Option OutputId × Option OutputId)

namespace Channel

def standing (ch : Channel) : Standing where
  id := ch.id
  status := ch.status
  processReference := ch.processReference
  preview := ch.preview

def wiring (ch : Channel) : Wiring where
  nextOutput := ch.nextOutput
  ends := ch.outputs.map Output.ends

def skeleton (ch : Channel) : Standing × Wiring := (ch.standing, ch.wiring)

theorem standing_eq {ch ch' : Channel} (h : ch'.skeleton = ch.skeleton) :
    ch'.standing = ch.standing := congrArg Prod.fst h

theorem wiring_eq {ch ch' : Channel} (h : ch'.skeleton = ch.skeleton) : ch'.wiring = ch.wiring :=
  congrArg Prod.snd h

theorem map_modify {α : Type} {g : Output → α} {outputs : List Output} {index : Nat}
    {f : Output → Output} (hf : ∀ o, outputs[index]? = some o → g (f o) = g o) :
    (outputs.modify index f).map g = outputs.map g := by
  apply List.ext_getElem?
  intro i
  simp only [List.getElem?_map, List.getElem?_modify]
  cases ho : outputs[i]? with
  | none => rfl
  | some o =>
    by_cases hi : index = i
    · subst hi
      simp [hf o ho]
    · simp [hi]

theorem skeleton_changeOutput (ch : Channel) (index : Nat) (f : Output → Output)
    (hf : ∀ o, ch.outputs[index]? = some o → (f o).ends = o.ends) :
    (ch.changeOutput index f).skeleton = ch.skeleton := by
  simp only [skeleton, standing, wiring, changeOutput, map_modify hf]

theorem ends_map (f : Output → Output) (hf : ∀ o, (f o).ends = o.ends) (outputs : List Output) :
    (outputs.map f).map Output.ends = outputs.map Output.ends := by
  have he : Output.ends ∘ f = Output.ends := funext hf
  rw [List.map_map, he]

/-! ### Operations on the channel alone -/

theorem skeleton_editOutput (ch ch' : Channel) (index : Nat) (f : Output → Output)
    (hf : ∀ o, (f o).ends = o.ends) (h : ch.editOutput index f = .ok ch') :
    ch'.skeleton = ch.skeleton := by
  unfold editOutput at h
  split_ifs at h
  cases h
  exact ch.skeleton_changeOutput index f fun o _ => hf o

theorem skeleton_setHealthMonitoring (ch : Channel) (enabled : Bool) (defaults : HealthDefaults) :
    (ch.setHealthMonitoring enabled defaults).skeleton = ch.skeleton := by
  have he := ends_map ({ · with autoReconnect := enabled }) (fun _ => rfl) ch.outputs
  simp only [setHealthMonitoring]
  split_ifs <;> simp only [skeleton, standing, wiring, he]

theorem skeleton_changeEach (f : Output → Output) (hf : ∀ o, (f o).ends = o.ends) (ch : Channel)
    (indices : List Nat) : (changeEach f ch indices).skeleton = ch.skeleton := by
  induction indices generalizing ch with
  | nil => rfl
  | cons index rest ih =>
    exact (ih (ch.changeOutput index f)).trans (ch.skeleton_changeOutput index f fun o _ => hf o)

theorem skeleton_bulkSetEnabled (ch : Channel) (indices : List Nat) (enabled : Bool) :
    (ch.bulkSetEnabled indices enabled).2.skeleton = ch.skeleton := by
  apply skeleton_changeEach
  intro o
  split_ifs
  · rfl
  · rfl

theorem removeOutput_eq {ch ch' : Channel} {index : Nat} (h : ch.removeOutput index = .ok ch') :
    ch' = ch.dropOutput index := by
  unfold removeOutput at h
  split at h
  · cases h
  · split_ifs at h
    exact (Except.ok.inj h).symm

theorem removeEach_induction {motive : Channel → Prop}
    (step : ∀ ch index ch', motive ch → ch.removeOutput index = .ok ch' → motive ch')
    {ch : Channel} (h : motive ch) (order : List Nat) : motive (removeEach order ch).2 := by
  induction order generalizing ch with
  | nil => exact h
  | cons index rest ih =>
    cases hremove : ch.removeOutput index with
    | ok ch' =>
      simp only [removeEach, hremove]
      exact ih (step ch index ch' h hremove)
    | error error =>
      simp only [removeEach, hremove]
      exact ih h

theorem bulkRemoveOutputs_induction {motive : Channel → Prop}
    (step : ∀ ch index ch', motive ch → ch.removeOutput index = .ok ch' → motive ch')
    {ch : Channel} (h : motive ch) (indices : List Nat) :
    motive (ch.bulkRemoveOutputs indices).2 := by
  unfold bulkRemoveOutputs
  split
  · exact h
  · exact removeEach_induction step h (removalOrder indices)

end Channel

end Simulcast
