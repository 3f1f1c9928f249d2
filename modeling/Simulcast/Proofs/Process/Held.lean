import Simulcast.Proofs.Channel.Steady
import Simulcast.Proofs.Remote.Authenticating

/-!
# A process within reach

Over a connection that answers, a process that is there is found, and what it carries after a
request about its outputs is what was asked for.
-/

namespace Simulcast

open Simulated (Alike Apart)

theorem answering_steady : Steady Answering where
  sleep := Answering.sleep
  perform := fun h request => (Connection.perform_answered h request).1

/-- The connection answers, and the service has this process. -/
structure Held (i : ProcessInfo) (c : Connection Simulated) : Prop where
  answering : Answering c
  apart : c.remote.Apart
  present : ∃ p ∈ c.remote.processes, p.info = i

namespace Held

variable {i : ProcessInfo} {c : Connection Simulated}

theorem find? (h : Held i c) : ∃ p ∈ c.remote.processes, p.info = i ∧
    c.remote.find? i.id = some p ∧ c.remote.findReference? i.reference = some p := by
  obtain ⟨p, hp, rfl⟩ := h.present
  exact ⟨p, hp, rfl, find?_name h.apart.ids hp, find?_name h.apart.references hp⟩

theorem of_infos (h : Held i c) {c' : Connection Simulated} (hanswering : Answering c')
    (hinfos : c'.remote.processes.map (·.info) = c.remote.processes.map (·.info)) : Held i c' := by
  refine ⟨hanswering, h.apart.of_infos hinfos, ?_⟩
  have hmem : i ∈ c.remote.processes.map (·.info) := List.mem_map.mpr h.present
  rw [← hinfos] at hmem
  exact List.mem_map.mp hmem

theorem of_alike (h : Held i c) {c' : Connection Simulated} (hanswering : Answering c')
    (hs : Alike c.remote c'.remote) : Held i c' :=
  h.of_infos hanswering (congrArg (List.map _) hs.processes)

theorem perform (h : Held i c) (request : Request)
    (hinfos : ∀ s : Simulated, (s.serve request).2.processes.map (·.info) =
      s.processes.map (·.info)) :
    Held i (c.perform request).connection ∧ ∃ s, Alike c.remote s ∧
      (c.perform request).result = (s.serve request).1 ∧
      (c.perform request).connection.remote = (s.serve request).2 := by
  obtain ⟨hanswering, s, hs, hr, hc⟩ := Connection.perform_answered h.answering request
  refine ⟨h.of_infos hanswering ?_, s, hs, hr, hc⟩
  rw [hc, hinfos, hs.processes]

end Held

theorem Simulated.infos_change (s : Simulated) (id : String) {f : RunningProcess → RunningProcess}
    (hf : ∀ p, (f p).info = p.info) :
    (s.change id f).processes.map (·.info) = s.processes.map (·.info) :=
  map_changeFirst id hf s.processes

namespace Held

variable {i : ProcessInfo} {c : Connection Simulated}

theorem findProcess (h : Held i c) :
    (c.findProcess i.reference).result = .ok (some i) ∧
      Held i (c.findProcess i.reference).connection ∧
      Alike c.remote (c.findProcess i.reference).connection.remote := by
  obtain ⟨hfound, _, halike⟩ := h.answering.authenticates.findProcess i.reference
  obtain ⟨p, _, hinfo, _, hfirst⟩ := h.find?
  rw [hfirst, Option.map_some, hinfo] at hfound
  exact ⟨hfound, h.of_alike (answering_steady.findProcess h.answering i.reference) halike, halike⟩

theorem addOutput (h : Held i c) (o : ProcessOutput) :
    Held i (c.perform (.addOutput i.id o)).connection ∧
      ((c.perform (.addOutput i.id o)).result = .ok () ∨
        (∃ error, (c.perform (.addOutput i.id o)).result = .error error ∧
          error.isConflict = true) ∧ c.remote.Carries i.id o.id) ∧
      ∀ x, (c.perform (.addOutput i.id o)).connection.remote.Carries i.id x ↔
        x = o.id ∨ c.remote.Carries i.id x := by
  obtain ⟨hheld, s, hs, hr, hc⟩ := h.perform (.addOutput i.id o) fun s => by
    simp only [Simulated.serve]
    cases s.find? i.id with
    | none => rfl
    | some p =>
      simp only
      split_ifs
      · rfl
      · exact s.infos_change i.id fun _ => rfl
  obtain ⟨p, _, _, hf, _⟩ := h.find?
  obtain ⟨hresult, hcarries⟩ := Simulated.serve_addOutput ((hs.find? i.id).trans hf) o
  simp only [hs.carries] at hresult hcarries
  rw [hr, hc]
  exact ⟨hheld, hresult, hcarries⟩

theorem removeOutput (h : Held i c) (o : String) :
    Held i (c.perform (.removeOutput i.id o)).connection ∧
      ((c.perform (.removeOutput i.id o)).result = .ok () ∨
        ∃ error, (c.perform (.removeOutput i.id o)).result = .error error ∧
          error.isNotFound = true) ∧
      ∀ x, (c.perform (.removeOutput i.id o)).connection.remote.Carries i.id x ↔
        x ≠ o ∧ c.remote.Carries i.id x := by
  obtain ⟨hheld, s, hs, hr, hc⟩ := h.perform (.removeOutput i.id o) fun s => by
    simp only [Simulated.serve]
    cases s.find? i.id with
    | none => rfl
    | some p =>
      simp only
      split_ifs
      · exact s.infos_change i.id fun _ => rfl
      · rfl
  obtain ⟨p, _, _, hf, _⟩ := h.find?
  obtain ⟨hresult, hcarries⟩ := Simulated.serve_removeOutput ((hs.find? i.id).trans hf) o
  simp only [hs.carries] at hcarries
  rw [hr, hc]
  exact ⟨hheld, hresult, hcarries⟩

theorem getOutputs (h : Held i c) :
    (c.perform (.getOutputs i.id)).result.isOk = true := by
  obtain ⟨_, s, hs, hr, _⟩ := h.perform (.getOutputs i.id) fun s => by
    simp only [Simulated.serve]
    cases s.find? i.id <;> rfl
  obtain ⟨p, _, _, hf, _⟩ := h.find?
  rw [hr]
  simp only [Simulated.serve, (hs.find? i.id).trans hf]
  rfl

end Held

end Simulcast
