import Simulcast.Proofs.Channel.Tending
import Simulcast.Proofs.Remote.Tidy

/-!
# Tending to the process under a reference

Adding outputs to a process and removing them leaves the same processes in the same states, and
under other references the same outputs too. So does whatever tends to a channel on the air.
-/

namespace Simulcast

open Simulated (Alike Modest)

/-- A process of this id stands under the reference. -/
def StandsUnder (reference id : String) (s : Simulated) : Prop :=
  ∃ p ∈ s.processes, p.info.id = id ∧ p.info.reference = reference

/-- What tending to the outputs under a reference leaves: the same processes in the same states, and
under other references the same outputs too. -/
structure Tended (reference : String) (s t : Simulated) : Prop where
  infos : t.processes.map (·.info) = s.processes.map (·.info)
  named : s.Named → t.Named
  tidy : s.Tidy → t.Tidy
  others : s.Named → t.others reference = s.others reference

namespace Tended

variable {reference : String} {s t u : Simulated}

theorem of_alike (h : Alike s t) : Tended reference s t :=
  ⟨congrArg (List.map _) h.processes, h.named, h.tidy, fun _ => h.others reference⟩

theorem trans (h : Tended reference s t) (h' : Tended reference t u) : Tended reference s u where
  infos := h'.infos.trans h.infos
  named := fun hs => h'.named (h.named hs)
  tidy := fun hs => h'.tidy (h.tidy hs)
  others := fun hs => (h'.others (h.named hs)).trans (h.others hs)

theorem of_change {id : String} (hid : StandsUnder reference id s)
    {f : RunningProcess → RunningProcess} (hf : ∀ p, (f p).info = p.info)
    (hout : ∀ p, s.find? id = some p → p.outputIds.Nodup → (f p).outputIds.Nodup) :
    Tended reference s (s.change id f) := by
  obtain ⟨p, hp, rfl, rfl⟩ := hid
  refine ⟨Simulated.map_changeFirst _ hf _, fun hs => ?_, fun hs => ?_, fun hs => ?_⟩
  · exact hs.change _ (.of_info hf)
  · exact hs.change hp (.of_info hf) (hout p (hs.find?_eq hp) (hs.outputs p hp))
  · exact hs.others_change hp (.of_info hf)

theorem states (h : Tended reference s t) (r : String) : t.states r = s.states r := by
  have hinfos (v : Simulated) : v.states r =
      ((v.processes.map (·.info)).filter (·.reference == r)).map (·.state) := by
    simp [Simulated.states, Simulated.held, List.filter_map, Function.comp_def]
  rw [hinfos, hinfos, h.infos]

end Tended

theorem standsUnder_iff_infos (reference id : String) (s : Simulated) :
    StandsUnder reference id s ↔
      ∃ i ∈ s.processes.map (·.info), i.id = id ∧ i.reference = reference := by
  simp [StandsUnder]

theorem nodup_withOutput {p : RunningProcess} {output : ProcessOutput} (h : p.outputIds.Nodup)
    (hnew : output.id ∉ p.outputIds) : (p.withOutput output).outputIds.Nodup :=
  nodup_names_append h fun _ ho he => hnew (he ▸ List.mem_map_of_mem ho)

theorem nodup_withoutOutput {p : RunningProcess} (output : String) (h : p.outputIds.Nodup) :
    (p.withoutOutput output).outputIds.Nodup :=
  h.sublist (List.filter_sublist.map _)

theorem tending_simulated (reference : String) :
    Tending reference (fun c c' : Connection Simulated => Tended reference c.remote c'.remote)
      (fun c id => StandsUnder reference id c.remote) where
  refl := fun c => .of_alike (.refl c.remote)
  trans := .trans
  sleep := fun c d => .of_alike (.refl c.remote)
  find := fun c => .of_alike (c.findProcess_served reference).1
  found := by
    intro c p hp
    obtain ⟨halike, hfound⟩ := c.findProcess_served reference
    obtain ⟨q, hq, rfl⟩ := Option.map_eq_some_iff.mp (hfound _ hp).symm
    rw [StandsUnder, halike.processes]
    exact ⟨q, List.mem_of_find?_eq_some hq, rfl, by simpa using List.find?_some hq⟩
  keeps := by
    intro c c' id h hk
    rw [standsUnder_iff_infos] at hk ⊢
    rwa [h.infos]
  outputs := fun _ => .of_alike (Connection.getOutputs_served _ _)
  add := by
    intro c id output hk
    obtain h | ⟨hnew, h⟩ := c.addOutput_served id output
    · exact .of_alike h
    · refine .trans (.of_change (f := (·.withOutput output)) hk (fun _ => rfl) fun p hp hn => ?_)
        (.of_alike h)
      exact nodup_withOutput hn (hnew p hp)
  remove := by
    intro c id output hk
    obtain h | h := c.removeOutput_served id output
    · exact .of_alike h
    · refine .trans (.of_change (f := (·.withoutOutput output)) hk (fun _ => rfl) fun p _ hn => ?_)
        (.of_alike h)
      exact nodup_withoutOutput output hn

end Simulcast
