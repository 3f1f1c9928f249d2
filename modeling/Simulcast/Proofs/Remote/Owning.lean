import Simulcast.Proofs.Remote.Carried

/-!
# The process of a channel

A channel refers to at most one process, as references are distinct. A request to add or remove an
output there changes the list of that process by the one output, or is refused and changes nothing.
So all that is done about some outputs leaves the service as it was besides these outputs.
-/

namespace Simulcast

open Simulated (Alike Apart)

namespace RunningProcess

def besides (xs : List String) (p : RunningProcess) : RunningProcess :=
  { p with outputs := p.outputs.filter (·.id ∉ xs) }

variable {xs : List String} {p : RunningProcess}

theorem besides_withOutput {o : ProcessOutput} (hx : o.id ∈ xs) :
    (p.withOutput o).besides xs = p.besides xs := by
  simp [besides, withOutput, hx]

theorem besides_withoutOutput {x : String} (hx : x ∈ xs) :
    (p.withoutOutput x).besides xs = p.besides xs := by
  simp only [besides, withoutOutput, List.filter_filter]
  congr 1
  refine List.filter_congr fun o _ => ?_
  by_cases ho : o.id ∈ xs
  · simp [ho]
  · have hne : o.id ≠ x := fun he => ho (he ▸ hx)
    simp [ho, hne]

theorem filter_withOutput {o : ProcessOutput} (hnew : o.id ∉ p.outputIds) :
    (p.withOutput o).outputs.filter (·.id == o.id) = [o] := by
  have hnone : p.outputs.filter (·.id == o.id) = [] :=
    List.filter_eq_nil_iff.mpr fun o' ho' he => hnew (List.mem_map.mpr ⟨o', ho', beq_iff_eq.mp he⟩)
  simp [withOutput, hnone]

theorem filter_withoutOutput {x y : String} (hne : y ≠ x) :
    (p.withoutOutput x).outputs.filter (·.id == y) = p.outputs.filter (·.id == y) := by
  simp only [withoutOutput, List.filter_filter]
  refine List.filter_congr fun o _ => ?_
  by_cases ho : o.id = y
  · simp [ho, hne]
  · simp [ho]

end RunningProcess

namespace Simulated

/-- The processes, without the outputs of these ids where one stands under the reference. -/
def besides (reference : Option String) (xs : List String) (s : Simulated) : List RunningProcess :=
  s.processes.map fun p => if reference = some p.info.reference then p.besides xs else p

variable {s t : Simulated} {id : String} {p : RunningProcess}

theorem Alike.besides (h : Alike s t) (reference : Option String) (xs : List String) :
    t.besides reference xs = s.besides reference xs := by
  rw [Simulated.besides, Simulated.besides, h.processes]

/-- A change makes no difference to a view that sees none at the process that is changed. -/
theorem map_change {α : Type} {view : RunningProcess → α} (hfind : s.find? id = some p)
    {f : RunningProcess → RunningProcess} (hf : view (f p) = view p) :
    (s.change id f).processes.map view = s.processes.map view := by
  have hlist (processes : List RunningProcess)
      (h : processes.find? (·.info.id == id) = some p) :
      (changeFirst id f processes).map view = processes.map view := by
    induction processes with
    | nil => rfl
    | cons q rest ih =>
      unfold changeFirst
      split_ifs with hid
      · obtain rfl : q = p := by simpa [hid] using h
        simp [hf]
      · simp only [List.find?_cons, beq_false_of_ne hid] at h
        simp [ih h]
  exact hlist s.processes hfind

end Simulated

namespace Channel

variable {ch : Channel} {p q : RunningProcess} {s t u : Simulated} {xs : List String}

def OnProcess (ch : Channel) (s : Simulated) (x : String) : Prop :=
  ∃ p ∈ s.processes, ch.processReference = some p.info.reference ∧ x ∈ p.outputIds

/-- The process of the channel has this output. -/
def Delivers (ch : Channel) (s : Simulated) (o : ProcessOutput) : Prop :=
  ∃ p ∈ s.processes, ch.processReference = some p.info.reference ∧ o ∈ p.outputs

/-- The channel refers to this process. -/
structure Owns (ch : Channel) (p : RunningProcess) (s : Simulated) : Prop where
  refers : ch.processReference = some p.info.reference
  mem : p ∈ s.processes
  apart : s.Apart

/-- The process of the channel has the output at a position just once, as the channel would push it
now. -/
def Pushes (ch : Channel) (index : Nat) (s : Simulated) : Prop :=
  ∃ p ∈ s.processes, ch.processReference = some p.info.reference ∧
    ∃ pushed, ch.processOutput? index = some pushed ∧
      p.outputs.filter (·.id == pushed.id) = [pushed]

/-- The process of the channel became this one, and besides some outputs of it nothing changed. -/
structure Became (ch : Channel) (xs : List String) (s : Simulated) (q : RunningProcess)
    (t : Simulated) : Prop where
  owns : ch.Owns q t
  besides : t.besides ch.processReference xs = s.besides ch.processReference xs

theorem OnProcess.of_alike (h : Alike s t) (x : String) : ch.OnProcess t x ↔ ch.OnProcess s x := by
  rw [OnProcess, OnProcess, h.processes]

theorem Owns.find? (h : ch.Owns p s) : s.find? p.info.id = some p :=
  find?_name h.apart.ids h.mem

theorem Owns.unique (h : ch.Owns p s) (h' : ch.Owns q s) : p = q :=
  List.inj_on_of_nodup_map h.apart.references h.mem h'.mem
    (Option.some.inj (h.refers.symm.trans h'.refers))

theorem Owns.of_reference {ch' : Channel} (h : ch.Owns p s)
    (hr : ch'.processReference = ch.processReference) : ch'.Owns p s :=
  ⟨hr.trans h.refers, h.mem, h.apart⟩

theorem Delivers.of_alike (h : Alike s t) (o : ProcessOutput) :
    ch.Delivers t o ↔ ch.Delivers s o := by
  rw [Delivers, Delivers, h.processes]

theorem Owns.onProcess_iff (h : ch.Owns p s) (x : String) :
    ch.OnProcess s x ↔ x ∈ p.outputIds := by
  constructor
  · rintro ⟨q, hq, hrefers, hx⟩
    rwa [h.unique ⟨hrefers, hq, h.apart⟩]
  · exact fun hx => ⟨p, h.mem, h.refers, hx⟩

theorem Owns.alike (h : ch.Owns p s) (hs : Alike s t) : ch.Owns p t where
  refers := h.refers
  mem := hs.processes ▸ h.mem
  apart := h.apart.of_infos (congrArg (List.map _) hs.processes)

theorem Owns.change (h : ch.Owns p s) {f : RunningProcess → RunningProcess}
    (hf : ∀ q, (f q).info = q.info) : ch.Owns (f p) (s.change p.info.id f) where
  refers := by
    rw [hf]
    exact h.refers
  mem := List.mem_of_find?_eq_some (Simulated.find?_change h.find? hf)
  apart := h.apart.of_infos (Simulated.map_changeFirst _ hf s.processes)

theorem Owns.became (h : ch.Owns p s) (hs : Alike s t) : ch.Became xs s p t :=
  ⟨h.alike hs, hs.besides ch.processReference xs⟩

theorem Owns.became_change (h : ch.Owns p s) {f : RunningProcess → RunningProcess}
    (hf : ∀ q, (f q).info = q.info) (hxs : (f p).besides xs = p.besides xs)
    (hs : Alike (s.change p.info.id f) t) : ch.Became xs s (f p) t where
  owns := (h.change hf).alike hs
  besides := by
    rw [hs.besides]
    refine Simulated.map_change h.find? ?_
    simp only [hf, hxs, if_pos h.refers]

theorem Became.trans (h : ch.Became xs s p t) (h' : ch.Became xs t q u) : ch.Became xs s q u :=
  ⟨h'.owns, h'.besides.trans h.besides⟩

theorem owns_of_findProcess (xs : List String) {c c' : Connection Simulated}
    (hapart : c.remote.Apart) {i : ProcessInfo} (h : ch.findProcess c = (.ok i, c')) :
    ∃ p, p.info = i ∧ ch.Became xs c.remote p c'.remote := by
  obtain ⟨p, hp, hinfo, hrefers⟩ := findProcess_ok h
  have halike : Alike c.remote c'.remote := by
    have halike := ch.findProcess_alike c
    rwa [h] at halike
  exact ⟨p, hinfo, Owns.became ⟨by rw [hinfo, hrefers], hp, hapart⟩ halike⟩

theorem Owns.addOutput {c : Connection Simulated} (h : ch.Owns p c.remote) {o : ProcessOutput}
    (hx : o.id ∈ xs) :
    let added := c.perform (.addOutput p.info.id o)
    (added.result = .ok () ∧ o.id ∉ p.outputIds ∧
        ch.Became xs c.remote (p.withOutput o) added.connection.remote) ∨
      ∃ error, added.result = .error error ∧ (error.isConflict = true → o.id ∈ p.outputIds) ∧
        Alike c.remote added.connection.remote := by
  intro added
  rcases c.perform_cases (.addOutput p.info.id o) with ⟨error, hr, hsilent, hs⟩ | ⟨s, hs, hr, hc⟩
  · refine .inr ⟨error, hr, fun hconflict => ?_, hs⟩
    exact absurd (hsilent.2.symm.trans hconflict) Bool.false_ne_true
  · have hfind := (h.alike hs).find?
    have hpresent : (p.outputs.any fun o' => o'.id == o.id) = true ↔ o.id ∈ p.outputIds := by
      simp [RunningProcess.outputIds]
    change added.connection.remote = _ at hc
    change added.result = _ at hr
    rw [hr, hc]
    simp only [Simulated.serve, hfind]
    split_ifs with hany
    · exact .inr ⟨_, rfl, fun _ => hpresent.mp hany, hs⟩
    · refine .inl ⟨rfl, fun hmem => hany (hpresent.mpr hmem), ?_⟩
      exact h.became_change (f := (·.withOutput o)) (fun _ => rfl)
        (RunningProcess.besides_withOutput hx) (hs.change _ _)

theorem Owns.removeOutput {c : Connection Simulated} (h : ch.Owns p c.remote) {x : String}
    (hx : x ∈ xs) :
    let removed := c.perform (.removeOutput p.info.id x)
    (removed.result = .ok () ∧
        ch.Became xs c.remote (p.withoutOutput x) removed.connection.remote) ∨
      ∃ error, removed.result = .error error ∧ (error.isNotFound = true → x ∉ p.outputIds) ∧
        Alike c.remote removed.connection.remote := by
  intro removed
  rcases c.perform_cases (.removeOutput p.info.id x) with ⟨error, hr, hsilent, hs⟩ | ⟨s, hs, hr, hc⟩
  · refine .inr ⟨error, hr, fun hmissing => ?_, hs⟩
    exact absurd (hsilent.1.symm.trans hmissing) Bool.false_ne_true
  · have hfind := (h.alike hs).find?
    have hpresent : (p.outputs.any fun o => o.id == x) = true ↔ x ∈ p.outputIds := by
      simp [RunningProcess.outputIds]
    change removed.connection.remote = _ at hc
    change removed.result = _ at hr
    rw [hr, hc]
    simp only [Simulated.serve, hfind]
    split_ifs with hany
    · refine .inl ⟨rfl, ?_⟩
      exact h.became_change (f := (·.withoutOutput x)) (fun _ => rfl)
        (RunningProcess.besides_withoutOutput hx) (hs.change _ _)
    · exact .inr ⟨_, rfl, fun _ hmem => hany (hpresent.mpr hmem), hs⟩

end Channel

end Simulcast
