import Simulcast.Proofs.Remote.Quiet

/-!
# Requests at the simulated service

A request over a connection is refused on the way, which leaves the processes as they are, or it is
served. For each request there is a lemma on what the processes are afterwards.
-/

namespace Simulcast

namespace Simulated

def withProcess (s : Simulated) (config : ProcessConfig) : Simulated :=
  { s with
    processCount := s.processCount + 1
    processes := s.processes ++
      [{ info :=
          { id := "restreamer-" ++ toString (s.processCount + 1), reference := config.reference
            state := ProcessInfo.finishedState }
         inputUrl := config.inputUrl
         outputs := config.outputs }] }

theorem Alike.withProcess {s t : Simulated} (h : Alike s t) (config : ProcessConfig) :
    Alike (s.withProcess config) (t.withProcess config) := by
  obtain ⟨hprocesses, hcount⟩ := h
  exact ⟨by simp only [Simulated.withProcess, hprocesses, hcount], congrArg (· + 1) hcount⟩

theorem Alike.serve_result {s t : Simulated} (h : Alike s t) (request : Request) :
    (t.serve request).1 = (s.serve request).1 := by
  cases request with
  | listProcesses => simp only [serve, h.processes]
  | createProcess config =>
    simp only [serve, create, h.processes, h.processCount]
    split_ifs <;> rfl
  | getProcess id | getOutputs id | command id command | deleteProcess id =>
    simp only [serve, h.find?]
    cases s.find? id <;> rfl
  | addOutput id output | removeOutput id output =>
    simp only [serve, h.find?]
    cases s.find? id with
    | none => rfl
    | some p =>
      simp only
      split_ifs <;> rfl

end Simulated

namespace Connection

open Simulated (Alike)

theorem perform_cases (c : Connection Simulated) (request : Request) :
    (∃ error, (c.perform request).result = .error error ∧ error.Silent ∧
        Alike c.remote (c.perform request).connection.remote) ∨
      ∃ s, Alike c.remote s ∧ (c.perform request).result = (s.serve request).1 ∧
        (c.perform request).connection.remote = (s.serve request).2 := by
  have hauth := c.authenticate_quiet
  unfold perform
  generalize c.authenticate = authenticated at hauth ⊢
  obtain ⟨error | token, c₁⟩ := authenticated
  · exact .inl ⟨error, rfl, hauth.silent error rfl, hauth.alike⟩
  · have henter := c₁.remote.enter_alike request.kind
    have hasked : Service.answer c₁.remote (.perform token request) =
        c₁.remote.answer (.perform token request) := rfl
    simp only [ask, hasked, Simulated.answer, Call.kind]
    generalize c₁.remote.enter request.kind = entered at henter ⊢
    have hs := hauth.alike.trans henter
    obtain ⟨_ | _, s⟩ := entered
    · simp only [Simulated.respond]
      split_ifs with htoken
      · refine .inr ⟨s, hs, ?_⟩
        generalize s.serve request = served
        obtain ⟨error | value, t⟩ := served <;> exact ⟨rfl, rfl⟩
      · exact .inl ⟨_, rfl, ⟨rfl, rfl⟩, hs⟩
    · exact .inl ⟨_, rfl, ⟨rfl, rfl⟩, hs⟩

theorem findProcess_served (c : Connection Simulated) (reference : String) :
    Alike c.remote (c.findProcess reference).connection.remote ∧
      ∀ found, (c.findProcess reference).result = .ok found →
        found = (c.remote.findReference? reference).map (·.info) := by
  have h := c.perform_cases .listProcesses
  unfold findProcess
  generalize c.perform .listProcesses = listed at h ⊢
  obtain ⟨result, c'⟩ := listed
  rcases h with ⟨error, rfl, _, hs⟩ | ⟨s, hs, hr, hc⟩
  · exact ⟨hs, nofun⟩
  · obtain rfl : result = .ok (s.processes.map (·.info)) := hr
    obtain rfl : c'.remote = s := hc
    refine ⟨hs, ?_⟩
    rintro _ ⟨⟩
    rw [List.find?_map, hs.processes]
    rfl

theorem getOutputs_served (c : Connection Simulated) (id : String) :
    Alike c.remote (c.perform (.getOutputs id)).connection.remote := by
  rcases c.perform_cases (.getOutputs id) with ⟨error, _, _, hs⟩ | ⟨s, hs, _, hc⟩
  · exact hs
  · rw [hc]
    simp only [Simulated.serve]
    split <;> exact hs

theorem create_served (c : Connection Simulated) (config : ProcessConfig) :
    (∃ error, (c.perform (.createProcess config)).result = .error error ∧
        Alike c.remote (c.perform (.createProcess config)).connection.remote) ∨
      ((c.perform (.createProcess config)).result =
          .ok ("restreamer-" ++ toString (c.remote.processCount + 1)) ∧
        (∀ p ∈ c.remote.processes, p.info.reference ≠ config.reference) ∧
        Alike (c.remote.withProcess config)
          (c.perform (.createProcess config)).connection.remote) := by
  rcases c.perform_cases (.createProcess config) with ⟨error, hr, _, hs⟩ | ⟨s, hs, hr, hc⟩
  · exact .inl ⟨error, hr, hs⟩
  · rw [hr, hc]
    simp only [Simulated.serve, Simulated.create]
    split_ifs with hany
    · exact .inl ⟨_, rfl, hs⟩
    · refine .inr ⟨by rw [hs.processCount], fun p hp he => hany ?_, hs.withProcess config⟩
      rw [hs.processes]
      exact List.any_eq_true.mpr ⟨p, hp, beq_iff_eq.mpr he⟩

theorem command_served (c : Connection Simulated) (id : String) (command : Command) :
    (∃ error, (c.perform (.command id command)).result = .error error ∧
        (error.isNotFound = true → c.remote.find? id = none) ∧
        Alike c.remote (c.perform (.command id command)).connection.remote) ∨
      ((c.perform (.command id command)).result = .ok () ∧
        Alike (c.remote.change id (·.withState (Simulated.stateAfter command)))
          (c.perform (.command id command)).connection.remote) := by
  rcases c.perform_cases (.command id command) with ⟨error, hr, hsilent, hs⟩ | ⟨s, hs, hr, hc⟩
  · refine .inl ⟨error, hr, fun he => ?_, hs⟩
    rw [hsilent.1] at he
    cases he
  · rw [hr, hc]
    simp only [Simulated.serve]
    cases hf : s.find? id with
    | none => exact .inl ⟨_, rfl, fun _ => (hs.find? id).symm.trans hf, hs⟩
    | some p => exact .inr ⟨rfl, hs.change id _⟩

theorem delete_served (c : Connection Simulated) (id : String) :
    ((c.perform (.deleteProcess id)).result.isOk = false ∧
        Alike c.remote (c.perform (.deleteProcess id)).connection.remote) ∨
      ((c.perform (.deleteProcess id)).result.isOk = true ∧
        Alike (c.remote.withoutProcess id)
          (c.perform (.deleteProcess id)).connection.remote) := by
  rcases c.perform_cases (.deleteProcess id) with ⟨error, hr, _, hs⟩ | ⟨s, hs, hr, hc⟩
  · exact .inl ⟨by rw [hr]; rfl, hs⟩
  · rw [hr, hc]
    simp only [Simulated.serve]
    cases s.find? id with
    | none => exact .inl ⟨rfl, hs⟩
    | some p => exact .inr ⟨rfl, hs.withoutProcess id⟩

theorem addOutput_served (c : Connection Simulated) (id : String) (output : ProcessOutput) :
    Alike c.remote (c.perform (.addOutput id output)).connection.remote ∨
      ((∀ p, c.remote.find? id = some p → output.id ∉ p.outputIds) ∧
        Alike (c.remote.change id (·.withOutput output))
          (c.perform (.addOutput id output)).connection.remote) := by
  rcases c.perform_cases (.addOutput id output) with ⟨error, _, _, hs⟩ | ⟨s, hs, _, hc⟩
  · exact .inl hs
  · rw [hc]
    simp only [Simulated.serve]
    cases hf : s.find? id with
    | none => exact .inl hs
    | some p =>
      simp only
      split_ifs with hany
      · exact .inl hs
      · refine .inr ⟨fun q hq hmem => hany ?_, hs.change id _⟩
        obtain rfl : p = q := Option.some.inj (hf.symm.trans ((hs.find? id).trans hq))
        obtain ⟨o, ho, he⟩ := List.mem_map.mp hmem
        exact List.any_eq_true.mpr ⟨o, ho, beq_iff_eq.mpr he⟩

theorem removeOutput_served (c : Connection Simulated) (id output : String) :
    Alike c.remote (c.perform (.removeOutput id output)).connection.remote ∨
      Alike (c.remote.change id (·.withoutOutput output))
        (c.perform (.removeOutput id output)).connection.remote := by
  rcases c.perform_cases (.removeOutput id output) with ⟨error, _, _, hs⟩ | ⟨s, hs, _, hc⟩
  · exact .inl hs
  · rw [hc]
    simp only [Simulated.serve]
    cases s.find? id with
    | none => exact .inl hs
    | some p =>
      simp only
      split_ifs
      · exact .inr (hs.change id _)
      · exact .inl hs

end Connection

end Simulcast
