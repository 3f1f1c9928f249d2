import Simulcast.Proofs.Remote.Tended

/-!
# What a process pushes

A process carries the outputs it was created with and those that joined it since, less those that
were taken off. Requests about outputs find the process by its id, so what a process carries is told
by id too, and adding or removing one output says nothing about another.
-/

namespace Simulcast

open Simulated (Alike)

namespace RunningProcess

variable {p : RunningProcess}

theorem mem_outputIds_withOutput (o : ProcessOutput) (x : String) :
    x ∈ (p.withOutput o).outputIds ↔ x = o.id ∨ x ∈ p.outputIds := by
  simp [outputIds, withOutput, or_comm]

theorem mem_outputIds_withoutOutput (y x : String) :
    x ∈ (p.withoutOutput y).outputIds ↔ x ≠ y ∧ x ∈ p.outputIds := by
  simp only [outputIds, withoutOutput, List.mem_map, List.mem_filter, bne_iff_ne]
  constructor
  · rintro ⟨o, ⟨ho, hne⟩, rfl⟩
    exact ⟨hne, o, ho, rfl⟩
  · rintro ⟨hne, o, ho, rfl⟩
    exact ⟨o, ⟨ho, hne⟩, rfl⟩

end RunningProcess

namespace Simulated

/-- The process of this id pushes the output. -/
def Carries (s : Simulated) (id x : String) : Prop := ∃ p, s.find? id = some p ∧ x ∈ p.outputIds

/-- No two processes have the same id or stand under the same reference. -/
structure Apart (s : Simulated) : Prop where
  ids : (s.processes.map (·.info.id)).Nodup
  references : (s.processes.map (·.info.reference)).Nodup

variable {s t : Simulated} {id : String}

theorem Alike.carries (h : Alike s t) (id x : String) : t.Carries id x ↔ s.Carries id x := by
  simp only [Carries, h.find?]

theorem Carries.of_find? {p : RunningProcess} (hf : s.find? id = some p) (x : String) :
    s.Carries id x ↔ x ∈ p.outputIds := by
  simp [Carries, hf]

theorem find?_changeFirst {processes : List RunningProcess} {p : RunningProcess}
    (h : processes.find? (·.info.id == id) = some p) {f : RunningProcess → RunningProcess}
    (hf : ∀ q, (f q).info = q.info) :
    (changeFirst id f processes).find? (·.info.id == id) = some (f p) := by
  induction processes with
  | nil => cases h
  | cons q rest ih =>
    unfold changeFirst
    split_ifs with hid
    · obtain rfl : q = p := by simpa [hid] using h
      simp [hf, hid]
    · simp only [List.find?_cons, beq_false_of_ne hid] at h ⊢
      exact ih h

theorem find?_change {p : RunningProcess} (h : s.find? id = some p)
    {f : RunningProcess → RunningProcess} (hf : ∀ q, (f q).info = q.info) :
    (s.change id f).find? id = some (f p) := find?_changeFirst h hf

theorem carries_withOutput {p : RunningProcess} (hf : s.find? id = some p) (o : ProcessOutput)
    (x : String) :
    (s.change id (·.withOutput o)).Carries id x ↔ x = o.id ∨ s.Carries id x := by
  rw [Carries.of_find? hf, Carries.of_find? (find?_change hf (f := (·.withOutput o)) fun _ => rfl)]
  exact RunningProcess.mem_outputIds_withOutput o x

theorem carries_withoutOutput {p : RunningProcess} (hf : s.find? id = some p) (o x : String) :
    (s.change id (·.withoutOutput o)).Carries id x ↔ x ≠ o ∧ s.Carries id x := by
  rw [Carries.of_find? hf,
    Carries.of_find? (find?_change hf (f := (·.withoutOutput o)) fun _ => rfl)]
  exact RunningProcess.mem_outputIds_withoutOutput o x

theorem serve_addOutput {p : RunningProcess} (hf : s.find? id = some p) (o : ProcessOutput) :
    ((s.serve (.addOutput id o)).1 = .ok () ∨
        (∃ error, (s.serve (.addOutput id o)).1 = .error error ∧ error.isConflict = true) ∧
          s.Carries id o.id) ∧
      ∀ x, (s.serve (.addOutput id o)).2.Carries id x ↔ x = o.id ∨ s.Carries id x := by
  simp only [Simulated.serve, hf]
  split_ifs with hany
  · have hcarried : s.Carries id o.id := by
      obtain ⟨o', ho, he⟩ := List.any_eq_true.mp hany
      exact ⟨p, hf, List.mem_map.mpr ⟨o', ho, beq_iff_eq.mp he⟩⟩
    refine ⟨.inr ⟨⟨_, rfl, rfl⟩, hcarried⟩, fun x => ⟨.inr, ?_⟩⟩
    rintro (rfl | h)
    · exact hcarried
    · exact h
  · exact ⟨.inl rfl, carries_withOutput hf o⟩

theorem serve_removeOutput {p : RunningProcess} (hf : s.find? id = some p) (o : String) :
    ((s.serve (.removeOutput id o)).1 = .ok () ∨
        ∃ error, (s.serve (.removeOutput id o)).1 = .error error ∧ error.isNotFound = true) ∧
      ∀ x, (s.serve (.removeOutput id o)).2.Carries id x ↔ x ≠ o ∧ s.Carries id x := by
  simp only [Simulated.serve, hf]
  split_ifs with hany
  · exact ⟨.inl rfl, carries_withoutOutput hf o⟩
  · refine ⟨.inr ⟨_, rfl, rfl⟩, fun x => ⟨fun h => ⟨?_, h⟩, And.right⟩⟩
    rintro rfl
    obtain ⟨o', ho, he⟩ := List.mem_map.mp ((Carries.of_find? hf x).mp h)
    exact hany (List.any_eq_true.mpr ⟨o', ho, beq_iff_eq.mpr he⟩)

end Simulated

namespace Connection

variable {id : String}

/-- A request to add an output takes none off the process, whether it succeeds or not. -/
theorem addOutput_carried (c : Connection Simulated) {p : RunningProcess}
    (hf : c.remote.find? id = some p) (o : ProcessOutput) :
    (∀ x, c.remote.Carries id x →
        (c.perform (.addOutput id o)).connection.remote.Carries id x) ∧
      ((c.perform (.addOutput id o)).result = .ok () →
        (c.perform (.addOutput id o)).connection.remote.Carries id o.id) := by
  rcases c.perform_cases (.addOutput id o) with ⟨error, hr, _, hs⟩ | ⟨s, hs, _, hc⟩
  · refine ⟨fun x hx => (hs.carries id x).mpr hx, fun hok => ?_⟩
    cases hr.symm.trans hok
  · obtain ⟨_, hcarries⟩ := Simulated.serve_addOutput ((hs.find? id).trans hf) o
    rw [hc]
    exact ⟨fun x hx => (hcarries x).mpr (.inr ((hs.carries id x).mpr hx)),
      fun _ => (hcarries o.id).mpr (.inl rfl)⟩

/-- A request to remove an output takes no other off the process. -/
theorem removeOutput_carried (c : Connection Simulated) {p : RunningProcess}
    (hf : c.remote.find? id = some p) {o x : String} (hne : x ≠ o)
    (hx : c.remote.Carries id x) :
    (c.perform (.removeOutput id o)).connection.remote.Carries id x := by
  rcases c.perform_cases (.removeOutput id o) with ⟨error, _, _, hs⟩ | ⟨s, hs, _, hc⟩
  · exact (hs.carries id x).mpr hx
  · obtain ⟨_, hcarries⟩ := Simulated.serve_removeOutput ((hs.find? id).trans hf) o
    rw [hc]
    exact (hcarries x).mpr ⟨hne, (hs.carries id x).mpr hx⟩

theorem getOutputs_result (c : Connection Simulated) {p : RunningProcess}
    (hf : c.remote.find? id = some p) {present : List String}
    (hok : (c.perform (.getOutputs id)).result = .ok present) : present = p.outputIds := by
  rcases c.perform_cases (.getOutputs id) with ⟨error, hr, _, _⟩ | ⟨s, hs, hr, _⟩
  · cases hr.symm.trans hok
  · simp only [Simulated.serve, (hs.find? id).trans hf] at hr
    exact (Except.ok.inj (hr.symm.trans hok)).symm

end Connection

/-! ### The process of a channel -/

open Simulated (Apart)

theorem Simulated.Apart.of_infos {s t : Simulated} (h : s.Apart)
    (hinfos : t.processes.map (·.info) = s.processes.map (·.info)) : t.Apart := by
  have hmap {α : Type} (name : ProcessInfo → α) :
      t.processes.map (fun p => name p.info) = s.processes.map fun p => name p.info := by
    simpa only [List.map_map, Function.comp_def] using congrArg (List.map name) hinfos
  exact ⟨(hmap (·.id)).symm ▸ h.ids, (hmap (·.reference)).symm ▸ h.references⟩

theorem Simulated.find?_of_infos {s t : Simulated} (id : String)
    (hinfos : t.processes.map (·.info) = s.processes.map (·.info)) :
    (t.find? id).map (·.info) = (s.find? id).map (·.info) := by
  have hinfo (u : Simulated) : (u.find? id).map (·.info) =
      (u.processes.map (·.info)).find? (·.id == id) := by
    rw [List.find?_map]
    rfl
  rw [hinfo, hinfo, hinfos]

namespace Channel

/-- The channel refers to the process of this id. -/
structure Attached (ch : Channel) (reference id : String) (s : Simulated) : Prop where
  refers : ch.processReference = some reference
  stands : StandsUnder reference id s
  apart : s.Apart

variable {ch ch' : Channel} {reference id : String} {s t : Simulated}

theorem Attached.refersTo (h : ch.Attached reference id s) : ch.RefersTo reference := fun _ hr =>
  Option.some.inj (hr.symm.trans h.refers)

theorem Attached.find? (h : ch.Attached reference id s) :
    ∃ p, s.find? id = some p ∧ p.info.reference = reference := by
  obtain ⟨p, hp, rfl, hr⟩ := h.stands
  exact ⟨p, find?_name h.apart.ids hp, hr⟩

theorem Attached.tended (h : ch.Attached reference id s) (hs : ch'.skeleton = ch.skeleton)
    (ht : Tended reference s t) : ch'.Attached reference id t where
  refers := (congrArg Standing.processReference (standing_eq hs)).trans h.refers
  stands := by
    rw [standsUnder_iff_infos, ht.infos, ← standsUnder_iff_infos]
    exact h.stands
  apart := h.apart.of_infos ht.infos

theorem findProcess_alike (ch : Channel) (c : Connection Simulated) :
    Alike c.remote (ch.findProcess c).2.remote := by
  unfold findProcess
  cases ch.processReference with
  | none => exact .refl _
  | some r =>
    have h := (c.findProcess_served r).1
    simp only
    generalize c.findProcess r = found at h ⊢
    obtain ⟨error | (_ | i), c'⟩ := found <;> exact h

/-- Whatever process the channel finds is one that the service has under its reference. -/
theorem findProcess_ok {c c' : Connection Simulated} {i : ProcessInfo}
    (h : ch.findProcess c = (.ok i, c')) :
    ∃ p ∈ c.remote.processes, p.info = i ∧ ch.processReference = some i.reference := by
  unfold findProcess at h
  cases hr : ch.processReference with
  | none =>
    rw [hr] at h
    cases h
  | some r =>
    have hserved := (c.findProcess_served r).2
    simp only [hr] at h
    generalize c.findProcess r = found at h hserved
    obtain ⟨error | (_ | j), d⟩ := found
    · cases h
    · cases h
    · cases h
      obtain ⟨p, hp, hi⟩ := Option.map_eq_some_iff.mp (hserved _ rfl).symm
      have href : p.info.reference = r := by simpa using List.find?_some hp
      exact ⟨p, List.mem_of_find?_eq_some hp, hi, by rw [← hi, href]⟩

theorem Attached.id_eq {c c' : Connection Simulated} (h : ch.Attached reference id c.remote)
    {i : ProcessInfo} (hi : ch.findProcess c = (.ok i, c')) : i.id = id := by
  obtain ⟨p, hp, rfl, hr⟩ := findProcess_ok hi
  obtain ⟨q, hq, rfl, hq'⟩ := h.stands
  have href : p.info.reference = q.info.reference :=
    (h.refersTo _ hr).trans hq'.symm
  rw [List.inj_on_of_nodup_map h.apart.references hp hq href]

end Channel

end Simulcast
