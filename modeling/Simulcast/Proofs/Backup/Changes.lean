import Mathlib.Tactic.SplitIfs
import Simulcast.Proofs.Backup.Graph

/-!
# Changing outputs by id

A channel changes its outputs by position. As their ids are distinct, each such change is one of
every output that asks for its id, and for such changes it is plain what becomes of the links.
-/

namespace Simulcast

def Output.atId (id : OutputId) (f : Output → Output) (o : Output) : Output :=
  if o.id = id then f o else o

theorem Output.atId_id (id : OutputId) {f : Output → Output} (hf : ∀ o, (f o).id = o.id)
    (o : Output) : (o.atId id f).id = o.id := by
  unfold Output.atId
  split_ifs
  · exact hf o
  · rfl

namespace Channel

theorem Distinct.changeOutput_eq {ch : Channel} (h : ch.Distinct) {index : Nat} {o : Output}
    (ho : ch.outputs[index]? = some o) (f : Output → Output) :
    ch.changeOutput index f = ch.changeOutputs (Output.atId o.id f) := by
  have he : ch.outputs.modify index f = ch.outputs.map (Output.atId o.id f) := by
    apply List.ext_getElem?
    intro i
    rw [List.getElem?_modify, List.getElem?_map]
    cases hi : ch.outputs[i]? with
    | none => rfl
    | some o' =>
      by_cases hie : index = i
      · subst hie
        obtain rfl : o = o' := Option.some.inj (ho.symm.trans hi)
        simp [Output.atId]
      · have hne : o'.id ≠ o.id := fun he => hie (h.index_eq hi ho he).symm
        simp [Output.atId, hie, hne]
  simp only [changeOutput, changeOutputs, he]

theorem Distinct.change {ch : Channel} (h : ch.Distinct) {g : Output → Output}
    (hg : ∀ o, (g o).id = o.id) : (ch.changeOutputs g).Distinct := by
  have hids : (ch.changeOutputs g).outputs.map (·.id) = ch.outputs.map (·.id) := by
    simp only [changeOutputs, List.map_map]
    exact List.map_congr_left fun o _ => hg o
  rw [Distinct, hids]
  exact h

theorem links_changeOutputs {ch : Channel} {g : Output → Output} (hg : ∀ o, (g o).id = o.id)
    (link : Output → Option OutputId) (a b : OutputId) :
    (ch.changeOutputs g).Links link a b ↔ ∃ o ∈ ch.outputs, o.id = a ∧ link (g o) = some b := by
  simp [Links, changeOutputs, hg]

theorem links_cleared {ch : Channel} {g : Output → Output} (hg : ∀ o, (g o).id = o.id)
    {link : Output → Option OutputId} {gone : OutputId}
    (hlink : ∀ o, link (g o) = if o.id = gone then none else link o) (a b : OutputId) :
    (ch.changeOutputs g).Links link a b ↔ ch.Links link a b ∧ a ≠ gone := by
  rw [links_changeOutputs hg]
  constructor
  · rintro ⟨o, ho, rfl, hb⟩
    rw [hlink] at hb
    split_ifs at hb with hgone
    exact ⟨⟨o, ho, rfl, hb⟩, hgone⟩
  · rintro ⟨⟨o, ho, rfl, hb⟩, hne⟩
    exact ⟨o, ho, rfl, by rw [hlink, if_neg hne, hb]⟩

theorem links_set {ch : Channel} {g : Output → Output} (hg : ∀ o, (g o).id = o.id)
    {link : Output → Option OutputId} {source : Output} (hs : source ∈ ch.outputs)
    {target : OutputId} (hlink : ∀ o, link (g o) =
      if o.id = source.id then some target else if link o = some target then none else link o)
    (a b : OutputId) :
    (ch.changeOutputs g).Links link a b ↔
      (a = source.id ∧ b = target) ∨ (ch.Links link a b ∧ a ≠ source.id ∧ b ≠ target) := by
  rw [links_changeOutputs hg]
  constructor
  · rintro ⟨o, ho, rfl, hb⟩
    rw [hlink] at hb
    split_ifs at hb with hsource htarget
    · exact .inl ⟨hsource, (Option.some.inj hb).symm⟩
    · exact .inr ⟨⟨o, ho, rfl, hb⟩, hsource, fun he => htarget (he ▸ hb)⟩
  · rintro (⟨rfl, rfl⟩ | ⟨⟨o, ho, rfl, hb⟩, ha, hne⟩)
    · exact ⟨source, hs, rfl, by rw [hlink, if_pos rfl]⟩
    · refine ⟨o, ho, rfl, ?_⟩
      rw [hlink, if_neg ha, hb, if_neg fun he => hne (Option.some.inj he)]

theorem below_changeOutputs {ch : Channel} {g : Output → Output} (hg : ∀ o, (g o).id = o.id)
    (h : ∀ o ∈ ch.outputs, o.id.number < ch.nextOutput) :
    ∀ o ∈ (ch.changeOutputs g).outputs, o.id.number < (ch.changeOutputs g).nextOutput := by
  intro o ho
  obtain ⟨o', ho', rfl⟩ := List.mem_map.mp ho
  rw [hg]
  exact h o' ho'

theorem position?_getElem {ch : Channel} {id : OutputId} {index : Nat}
    (h : ch.position? id = some index) : ∃ o, ch.outputs[index]? = some o ∧ o.id = id := by
  obtain ⟨hlt, he, _⟩ := List.findIdx?_eq_some_iff_getElem.mp h
  exact ⟨ch.outputs[index], List.getElem?_eq_getElem hlt, by simpa using he⟩

theorem Linked.backupIndex?_spec {ch : Channel} (h : ch.Linked) {primary backup : Nat} {p : Output}
    (hp : ch.outputs[primary]? = some p) (hb : ch.backupIndex? primary = some backup) :
    backup ≠ primary ∧ ∃ b, ch.outputs[backup]? = some b ∧ p.backup = some b.id := by
  rw [backupIndex?, hp, Option.bind_some] at hb
  obtain ⟨id, hlink, hposition⟩ := Option.bind_eq_some_iff.mp hb
  obtain ⟨b, hat, rfl⟩ := position?_getElem hposition
  refine ⟨?_, b, hat, hlink⟩
  rintro rfl
  obtain rfl := Option.some.inj (hp.symm.trans hat)
  exact h.acyclic p.id (.single ⟨p, List.mem_of_getElem? hp, rfl, hlink⟩)

def changeAt (ch : Channel) (index : Option Nat) (f : Output → Output) : Channel :=
  match index with
  | some index => ch.changeOutput index f
  | none => ch

theorem getElem?_changeOutputs {ch : Channel} {index : Nat} {o : Output}
    (ho : ch.outputs[index]? = some o) (g : Output → Output) :
    (ch.changeOutputs g).outputs[index]? = some (g o) := by
  simp [changeOutputs, ho]

theorem Distinct.changeAt_eq {ch : Channel} (h : ch.Distinct) (target : Option OutputId)
    (f : Output → Output) :
    ch.changeAt (target.bind ch.position?) f =
      ch.changeOutputs fun o => if target = some o.id then f o else o := by
  have away (hno : ∀ o ∈ ch.outputs, target ≠ some o.id) :
      ch = ch.changeOutputs fun o => if target = some o.id then f o else o := by
    have hid : ch.outputs.map (fun o => if target = some o.id then f o else o) = ch.outputs := by
      refine (List.map_congr_left fun o ho => ?_).trans (List.map_id _)
      exact if_neg (hno o ho)
    simp only [changeOutputs, hid]
  cases target with
  | none => exact away fun _ _ => nofun
  | some id =>
    simp only [Option.bind_some, changeAt]
    cases hp : ch.position? id with
    | none =>
      refine away fun o ho he => ?_
      have hno := List.findIdx?_eq_none_iff.mp hp o ho
      simp [Option.some.inj he] at hno
    | some index =>
      obtain ⟨o, ho, rfl⟩ := position?_getElem hp
      have hsame : (fun x : Output => if some o.id = some x.id then f x else x) =
          Output.atId o.id f := by
        funext x
        simp only [Output.atId, Option.some.injEq, eq_comm]
      rw [hsame]
      exact h.changeOutput_eq ho f

theorem changeOutputs_twice (ch : Channel) (f g : Output → Output) :
    (ch.changeOutputs f).changeOutputs g = ch.changeOutputs (g ∘ f) := by
  simp [changeOutputs]

theorem changeOutputs_congr {ch : Channel} {f g : Output → Output}
    (h : ∀ o ∈ ch.outputs, f o = g o) : ch.changeOutputs f = ch.changeOutputs g := by
  simp only [changeOutputs, List.map_congr_left h]

end Channel

end Simulcast
