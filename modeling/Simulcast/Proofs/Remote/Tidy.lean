import Simulcast.Proofs.Remote.Ids
import Simulcast.Proofs.Remote.Served

/-!
# What the simulated service holds

Processes are told apart by their ids, which count up, and at most one of them stands under a
reference. Changing, deleting or creating a process under one reference keeps it so, and leaves the
processes under the others alone.
-/

namespace Simulcast

namespace Simulated

/-- Every process has an id and a reference of its own. -/
structure Named (s : Simulated) : Prop where
  ids : (s.processes.map (·.info.id)).Nodup
  numbered : ∀ p ∈ s.processes, ∃ n ≤ s.processCount, p.info.id = "restreamer-" ++ toString n
  references : (s.processes.map (·.info.reference)).Nodup

/-- Everything the service keeps has a name of its own. -/
structure Tidy (s : Simulated) : Prop extends Named s where
  outputs : ∀ p ∈ s.processes, p.outputIds.Nodup

def held (reference : String) (s : Simulated) : List RunningProcess :=
  s.processes.filter (·.info.reference == reference)

def others (reference : String) (s : Simulated) : List RunningProcess :=
  s.processes.filter (·.info.reference != reference)

def states (reference : String) (s : Simulated) : List String :=
  (held reference s).map (·.info.state)

section

variable {s t : Simulated} {reference : String}

theorem Alike.named (h : Alike s t) (hs : s.Named) : t.Named := by
  obtain ⟨ids, numbered, references⟩ := hs
  rw [← h.processes] at ids references
  rw [← h.processes, ← h.processCount] at numbered
  exact ⟨ids, numbered, references⟩

theorem Alike.tidy (h : Alike s t) (hs : s.Tidy) : t.Tidy where
  toNamed := h.named hs.toNamed
  outputs := by
    rw [h.processes]
    exact hs.outputs

theorem Alike.held (h : Alike s t) (reference : String) : t.held reference = s.held reference :=
  congrArg (List.filter _) h.processes

theorem Alike.others (h : Alike s t) (reference : String) :
    t.others reference = s.others reference :=
  congrArg (List.filter _) h.processes

theorem Alike.states (h : Alike s t) (reference : String) :
    t.states reference = s.states reference :=
  congrArg (List.map _) (h.held reference)

theorem findReference?_eq_head? (s : Simulated) (reference : String) :
    s.findReference? reference = (s.held reference).head? :=
  List.head?_filter.symm

theorem mem_held {p : RunningProcess} :
    p ∈ s.held reference ↔ p ∈ s.processes ∧ p.info.reference = reference := by
  simp [held]

theorem mem_others {p : RunningProcess} :
    p ∈ s.others reference ↔ p ∈ s.processes ∧ p.info.reference ≠ reference := by
  simp [others]

theorem Named.eq_of_id (h : s.Named) {p q : RunningProcess} (hp : p ∈ s.processes)
    (hq : q ∈ s.processes) (he : p.info.id = q.info.id) : p = q :=
  List.inj_on_of_nodup_map h.ids hp hq he

theorem Named.held_eq (h : s.Named) {p : RunningProcess} (hp : p ∈ s.processes) :
    s.held p.info.reference = [p] :=
  filter_name h.references hp

theorem Named.find?_eq (h : s.Named) {p : RunningProcess} (hp : p ∈ s.processes) :
    s.find? p.info.id = some p :=
  find?_name h.ids hp

/-! ### Changing a process -/

theorem changeFirst_eq_map {processes : List RunningProcess} {id : String}
    {f : RunningProcess → RunningProcess} (h : (processes.map (·.info.id)).Nodup) :
    changeFirst id f processes = processes.map fun p => if p.info.id = id then f p else p := by
  induction processes with
  | nil => rfl
  | cons p rest ih =>
    rw [List.map_cons, List.nodup_cons] at h
    obtain ⟨hp, hrest⟩ := h
    by_cases hid : p.info.id = id
    · have hsame : rest.map (fun q => if q.info.id = id then f q else q) = rest := by
        refine (List.map_congr_left fun q hq => ?_).trans (List.map_id rest)
        exact if_neg fun he => hp (List.mem_map.mpr ⟨q, hq, he.trans hid.symm⟩)
      simp [changeFirst, hid, hsame]
    · simp [changeFirst, hid, ih hrest]

theorem map_changeFirst {α : Type} {key : RunningProcess → α} (id : String)
    {f : RunningProcess → RunningProcess} (hf : ∀ p, key (f p) = key p)
    (processes : List RunningProcess) :
    (changeFirst id f processes).map key = processes.map key := by
  induction processes with
  | nil => rfl
  | cons p rest ih =>
    unfold changeFirst
    split_ifs
    · simp [hf]
    · simp [ih]

/-- A change of a process that keeps its names. -/
structure Modest (f : RunningProcess → RunningProcess) : Prop where
  id : ∀ p, (f p).info.id = p.info.id
  reference : ∀ p, (f p).info.reference = p.info.reference

theorem Modest.of_info {f : RunningProcess → RunningProcess} (hf : ∀ p, (f p).info = p.info) :
    Modest f :=
  ⟨fun p => congrArg ProcessInfo.id (hf p), fun p => congrArg ProcessInfo.reference (hf p)⟩

theorem modest_withState (state : String) : Modest (·.withState state) :=
  ⟨fun _ => rfl, fun _ => rfl⟩

theorem Named.change (h : s.Named) (id : String) {f : RunningProcess → RunningProcess}
    (hf : Modest f) : (s.change id f).Named := by
  have hids : (s.change id f).processes.map (·.info.id) = s.processes.map (·.info.id) :=
    map_changeFirst id hf.id _
  constructor
  · rw [hids]
    exact h.ids
  · intro q hq
    have hmem : q.info.id ∈ s.processes.map (·.info.id) := hids ▸ List.mem_map_of_mem hq
    obtain ⟨q', hq', he⟩ := List.mem_map.mp hmem
    rw [← he]
    exact h.numbered q' hq'
  · change ((changeFirst _ f s.processes).map (·.info.reference)).Nodup
    rw [map_changeFirst id hf.reference]
    exact h.references

theorem Tidy.change (h : s.Tidy) {p : RunningProcess} (hp : p ∈ s.processes)
    {f : RunningProcess → RunningProcess} (hf : Modest f) (hout : (f p).outputIds.Nodup) :
    (s.change p.info.id f).Tidy where
  toNamed := h.toNamed.change p.info.id hf
  outputs := by
    intro q hq
    simp only [Simulated.change, changeFirst_eq_map h.ids] at hq
    obtain ⟨q', hq', rfl⟩ := List.mem_map.mp hq
    split_ifs with he
    · rw [h.eq_of_id hq' hp he]
      exact hout
    · exact h.outputs q' hq'

/-- Choosing processes by their references is done before or after a change. -/
theorem Named.filter_change (h : s.Named) (id : String) {f : RunningProcess → RunningProcess}
    (hf : Modest f) (test : String → Bool) :
    (s.change id f).processes.filter (fun p => test p.info.reference) =
      (s.processes.filter fun p => test p.info.reference).map
        fun p => if p.info.id = id then f p else p := by
  simp only [Simulated.change, changeFirst_eq_map h.ids, List.filter_map]
  congr 2
  funext q
  simp only [Function.comp_apply]
  split_ifs
  · rw [hf.reference]
  · rfl

theorem Named.held_change (h : s.Named) {p : RunningProcess} (hp : p ∈ s.processes)
    {f : RunningProcess → RunningProcess} (hf : Modest f) :
    (s.change p.info.id f).held p.info.reference = [f p] := by
  refine (h.filter_change p.info.id hf (· == p.info.reference)).trans ?_
  rw [filter_name h.references hp]
  simp

theorem Named.others_change (h : s.Named) {p : RunningProcess} (hp : p ∈ s.processes)
    {f : RunningProcess → RunningProcess} (hf : Modest f) :
    (s.change p.info.id f).others p.info.reference = s.others p.info.reference := by
  refine (h.filter_change p.info.id hf (· != p.info.reference)).trans ?_
  refine (List.map_congr_left fun q hq => ?_).trans (List.map_id _)
  obtain ⟨hq, hne⟩ := mem_others.mp hq
  refine if_neg fun he => hne ?_
  rw [h.eq_of_id hq hp he]

/-! ### Deleting and creating a process -/

theorem Named.withoutProcess (h : s.Named) (id : String) : (s.withoutProcess id).Named where
  ids := h.ids.sublist (List.filter_sublist.map _)
  numbered := fun p hp => h.numbered p (List.mem_filter.mp hp).1
  references := h.references.sublist (List.filter_sublist.map _)

theorem Tidy.withoutProcess (h : s.Tidy) (id : String) : (s.withoutProcess id).Tidy where
  toNamed := h.toNamed.withoutProcess id
  outputs := fun p hp => h.outputs p (List.mem_filter.mp hp).1

theorem Named.held_withoutProcess (h : s.Named) {p : RunningProcess} (hp : p ∈ s.processes) :
    (s.withoutProcess p.info.id).held p.info.reference = [] := by
  unfold held Simulated.withoutProcess
  rw [List.filter_comm, filter_name h.references hp]
  simp

theorem Named.others_withoutProcess (h : s.Named) {p : RunningProcess} (hp : p ∈ s.processes) :
    (s.withoutProcess p.info.id).others p.info.reference = s.others p.info.reference := by
  unfold others Simulated.withoutProcess
  rw [List.filter_comm]
  refine List.filter_eq_self.mpr fun q hq => ?_
  obtain ⟨hq, hne⟩ := mem_others.mp hq
  refine bne_iff_ne.mpr fun he => hne ?_
  rw [h.eq_of_id hq hp he]

theorem Named.withProcess (h : s.Named) {config : ProcessConfig}
    (hnew : ∀ p ∈ s.processes, p.info.reference ≠ config.reference) :
    (s.withProcess config).Named where
  ids := by
    refine nodup_names_append h.ids fun p hp => ?_
    obtain ⟨n, hn, he⟩ := h.numbered p hp
    rw [he]
    intro hsame
    have := numbered_injective "restreamer-" hsame
    omega
  numbered := by
    intro p hp
    obtain hp | hp := List.mem_append.mp hp
    · obtain ⟨n, hn, he⟩ := h.numbered p hp
      exact ⟨n, Nat.le_succ_of_le hn, he⟩
    · obtain rfl := List.mem_singleton.mp hp
      exact ⟨s.processCount + 1, Nat.le_refl _, rfl⟩
  references := nodup_names_append h.references hnew

theorem Tidy.withProcess (h : s.Tidy) {config : ProcessConfig}
    (hnew : ∀ p ∈ s.processes, p.info.reference ≠ config.reference)
    (hout : (config.outputs.map (·.id)).Nodup) : (s.withProcess config).Tidy where
  toNamed := h.toNamed.withProcess hnew
  outputs := by
    intro p hp
    obtain hp | hp := List.mem_append.mp hp
    · exact h.outputs p hp
    · obtain rfl := List.mem_singleton.mp hp
      exact hout

theorem others_withProcess (s : Simulated) (config : ProcessConfig) :
    (s.withProcess config).others config.reference = s.others config.reference := by
  simp [others, Simulated.withProcess]

end

end Simulated

end Simulcast
