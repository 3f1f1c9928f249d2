import Simulcast.Channel.Basic
import Simulcast.Proofs.Names

/-!
# Ids on the service

The service knows an output by its platform and position. No platform has an underscore in its name,
so what stands before the first one is the platform and what follows it is the position, and no two
outputs of a channel get the same id.
-/

namespace Simulcast

theorem Platform.underscore_notMem_name (p : Platform) : '_' ∉ p.name.toList := by
  cases p <;> decide

theorem Platform.name_injective {p q : Platform} (h : p.name = q.name) : p = q := by
  revert h
  cases p <;> cases q <;> decide

namespace Channel

theorem remoteId_injective {p q : Platform} {i j : Nat} (h : remoteId p i = remoteId q j) :
    p = q ∧ i = j := by
  have hlists := congrArg String.toList h
  simp only [remoteId, String.toList_append, List.append_assoc] at hlists
  change p.name.toList ++ '_' :: (toString i).toList = q.name.toList ++ '_' :: (toString j).toList
    at hlists
  obtain ⟨hname, _, _⟩ := (List.append_cons_inj_of_notMem p.underscore_notMem_name
    (notMem_digits rfl i)).mp hlists
  obtain rfl := Platform.name_injective (String.toList_injective hname)
  refine ⟨rfl, numbered_injective (p.name ++ "_") ?_⟩
  simpa only [remoteId] using h

theorem nodup_enabledOutputs (ch : Channel) : (ch.enabledOutputs.map (·.id)).Nodup := by
  have hpositions : ch.outputs.zipIdx.Pairwise fun a b => a.2 ≠ b.2 := by
    rw [← List.pairwise_map (f := Prod.snd) (R := (· ≠ ·)), List.zipIdx_map_snd]
    exact List.nodup_range'
  rw [enabledOutputs, List.map_filterMap]
  refine List.Pairwise.filterMap _ ?_ hpositions
  rintro ⟨o, i⟩ ⟨o', i'⟩ hne id hid id' hid'
  obtain ⟨output, hout, rfl⟩ := Option.map_eq_some_iff.mp hid
  obtain ⟨output', hout', rfl⟩ := Option.map_eq_some_iff.mp hid'
  simp only [Option.ite_none_right_eq_some, Option.some.injEq] at hout hout'
  obtain ⟨_, rfl⟩ := hout
  obtain ⟨_, rfl⟩ := hout'
  exact fun he => hne (remoteId_injective he).2

end Channel

end Simulcast
