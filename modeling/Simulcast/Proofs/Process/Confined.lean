import Mathlib.Tactic.ByContra
import Simulcast.Proofs.Remote.Tidy
import Simulcast.Proofs.Studio.Abandoned

/-!
# Taking a process down and launching one

What is done about the process under a reference leaves the service tidy and the processes under
other references alone. Taking the process down leaves it running, or it is gone or abandoned;
launching one leaves it running, or it is not there or abandoned.
-/

namespace Simulcast

open Simulated (Alike)

/-- What an operation about the process under a reference may do to the service. -/
structure Confined (reference : String) (s t : Simulated) : Prop where
  tidy : t.Tidy
  others : t.others reference = s.others reference

theorem Confined.of_alike {reference : String} {s t : Simulated} (hs : s.Tidy) (h : Alike s t) :
    Confined reference s t :=
  ⟨h.tidy hs, h.others reference⟩

theorem Confined.trans {reference : String} {s t u : Simulated} (h : Confined reference s t)
    (h' : Confined reference t u) : Confined reference s u :=
  ⟨h'.tidy, h'.others.trans h.others⟩

theorem Simulated.mem_of_states {s : Simulated} {reference state : String}
    (h : s.states reference = [state]) :
    ∃ p ∈ s.processes, p.info.reference = reference ∧ p.info.state = state := by
  obtain ⟨p, hp, hstate⟩ := List.map_eq_singleton_iff.mp h
  have hmem : p ∈ s.held reference := hp ▸ List.mem_singleton_self p
  obtain ⟨hs, hr⟩ := Simulated.mem_held.mp hmem
  exact ⟨p, hs, hr, hstate⟩

theorem Simulated.Tidy.states_eq {s : Simulated} (h : s.Tidy) {p : RunningProcess}
    (hp : p ∈ s.processes) : s.states p.info.reference = [p.info.state] :=
  congrArg (List.map _) (h.held_eq hp)

theorem command_confined {c : Connection Simulated} (hs : c.remote.Tidy) {p : RunningProcess}
    (hp : p ∈ c.remote.processes) (command : Command) :
    (∃ error, (c.perform (.command p.info.id command)).result = .error error ∧
        error.isNotFound = false ∧
        Alike c.remote (c.perform (.command p.info.id command)).connection.remote) ∨
      ((c.perform (.command p.info.id command)).result = .ok () ∧
        Confined p.info.reference c.remote
          (c.perform (.command p.info.id command)).connection.remote ∧
        p.withState (Simulated.stateAfter command) ∈
          (c.perform (.command p.info.id command)).connection.remote.processes) := by
  rcases c.command_served p.info.id command with ⟨error, hr, hmissing, halike⟩ | ⟨hr, halike⟩
  · refine .inl ⟨error, hr, ?_, halike⟩
    by_contra he
    have hnone := hmissing (by simpa using he)
    rw [hs.find?_eq hp] at hnone
    cases hnone
  · have hmodest := Simulated.modest_withState (Simulated.stateAfter command)
    have hheld := (halike.held p.info.reference).trans (hs.held_change hp hmodest)
    refine .inr ⟨hr, ⟨halike.tidy (hs.change hp hmodest (hs.outputs p hp)), ?_⟩, ?_⟩
    · exact (halike.others _).trans (hs.others_change hp hmodest)
    · exact (Simulated.mem_held.mp (hheld ▸ List.mem_singleton_self _)).1

theorem delete_confined {c : Connection Simulated} (hs : c.remote.Tidy) {p : RunningProcess}
    (hp : p ∈ c.remote.processes) :
    Confined p.info.reference c.remote
        (c.perform (.deleteProcess p.info.id)).connection.remote ∧
      (((c.perform (.deleteProcess p.info.id)).result.isOk = true ∧
          (c.perform (.deleteProcess p.info.id)).connection.remote.states p.info.reference = []) ∨
        (c.perform (.deleteProcess p.info.id)).result.isOk = false ∧
          (c.perform (.deleteProcess p.info.id)).connection.remote.states p.info.reference =
            [p.info.state]) := by
  rcases c.delete_served p.info.id with ⟨hr, halike⟩ | ⟨hr, halike⟩
  · exact ⟨.of_alike hs halike, .inr ⟨hr, (halike.states _).trans (hs.states_eq hp)⟩⟩
  · have hothers := (halike.others p.info.reference).trans (hs.others_withoutProcess hp)
    refine ⟨⟨halike.tidy (hs.withoutProcess _), hothers⟩, .inl ⟨hr, ?_⟩⟩
    rw [halike.states, Simulated.states, hs.held_withoutProcess hp]
    rfl

namespace Channel

theorem teardown_none {ch : Channel} (hp : ch.processReference = none) (c : Connection Simulated) :
    ch.teardown c = (.ok (), c) ∧ ch.teardownAbandons c = false := by
  simp [teardown, teardownAbandons, hp]

/-- Taking down a process that runs: it goes on running if that fails, and otherwise it is gone or
abandoned. -/
theorem teardown_confined {ch : Channel} {reference : String}
    (hp : ch.processReference = some reference) {c : Connection Simulated} (hs : c.remote.Tidy)
    (hrun : c.remote.states reference = [ProcessInfo.runningState]) :
    Confined reference c.remote (ch.teardown c).2.remote ∧
      ((∃ error, (ch.teardown c).1 = .error error ∧ ch.teardownAbandons c = false ∧
          (ch.teardown c).2.remote.states reference = [ProcessInfo.runningState]) ∨
        ((ch.teardown c).1 = .ok () ∧ ch.teardownAbandons c = false ∧
          (ch.teardown c).2.remote.states reference = []) ∨
        ((ch.teardown c).1 = .ok () ∧ ch.teardownAbandons c = true ∧
          (ch.teardown c).2.remote.states reference = [ProcessInfo.finishedState])) := by
  obtain ⟨p, hmem, rfl, _⟩ := Simulated.mem_of_states hrun
  obtain ⟨hfind, hfound⟩ := c.findProcess_served p.info.reference
  have hcommand := fun c₁ (hc : Alike c.remote (Connection.remote c₁)) =>
    command_confined (c := c₁) (hc.tidy hs) (hc.processes ▸ hmem) .stop
  unfold teardown teardownAbandons
  simp only [hp]
  generalize c.findProcess p.info.reference = answer at hfind hfound ⊢
  obtain ⟨error | found, c₁⟩ := answer
  · exact ⟨.of_alike hs hfind, .inl ⟨_, rfl, rfl, (hfind.states _).trans hrun⟩⟩
  · obtain rfl : found = some p.info := by
      rw [hfound found rfl, Simulated.findReference?_eq_head?, hs.held_eq hmem]
      rfl
    have hstop := hcommand c₁ hfind
    simp only
    generalize c₁.perform (.command p.info.id .stop) = commanded at hstop ⊢
    obtain ⟨result, c₂⟩ := commanded
    rcases hstop with ⟨error, rfl, hother, halike⟩ | ⟨rfl, hconfined, hstopped⟩
    · have hsame := hfind.trans halike
      refine ⟨.of_alike hs hsame, .inl ⟨.remote error, ?_, rfl, (hsame.states _).trans hrun⟩⟩
      exact if_neg (by simp [hother])
    · have hfirst := (Confined.of_alike hs hfind).trans hconfined
      obtain ⟨hdelete, ⟨hok, hstates⟩ | ⟨hok, hstates⟩⟩ := delete_confined hconfined.tidy hstopped
      · exact ⟨hfirst.trans hdelete, .inr (.inl ⟨rfl, congrArg Bool.not hok, hstates⟩)⟩
      · exact ⟨hfirst.trans hdelete, .inr (.inr ⟨rfl, congrArg Bool.not hok, hstates⟩)⟩

theorem launch_served {ch : Channel} {c : Connection Simulated}
    (hr : (ch.launch c).result = .ok ()) :
    (∀ p ∈ c.remote.processes, p.info.reference ≠ ch.id) ∧
      Alike
        ((c.remote.withProcess ch.processConfig).change
          ("restreamer-" ++ toString (c.remote.processCount + 1))
          (·.withState ProcessInfo.runningState))
        (ch.launch c).connection.remote := by
  have hcreate := c.create_served ch.processConfig
  unfold launch at hr ⊢
  generalize c.perform (.createProcess ch.processConfig) = created at hcreate hr ⊢
  obtain ⟨result, c₁⟩ := created
  rcases hcreate with ⟨error, rfl, _⟩ | ⟨rfl, hnew, hcreated⟩
  · cases hr
  · have hstart := c₁.command_served ("restreamer-" ++ toString (c.remote.processCount + 1)) .start
    simp only at hr ⊢
    generalize c₁.perform (.command _ .start) = commanded at hstart hr ⊢
    obtain ⟨result, c₂⟩ := commanded
    rcases hstart with ⟨error, rfl, _⟩ | ⟨rfl, hstarted⟩
    · cases hr
    · exact ⟨hnew, (hcreated.change _ _).trans hstarted⟩

/-- Launching leaves a process that runs, or none that was not there before; but one that neither
starts nor can be deleted is abandoned. -/
theorem launch_confined (ch : Channel) {c : Connection Simulated} (hs : c.remote.Tidy) :
    Confined ch.id c.remote (ch.launch c).connection.remote ∧
      ((∃ error, (ch.launch c).result = .error error ∧ ch.launchAbandons c = false ∧
          (ch.launch c).connection.remote.states ch.id = c.remote.states ch.id) ∨
        (∃ error, (ch.launch c).result = .error error ∧ ch.launchAbandons c = true ∧
          c.remote.states ch.id = [] ∧
          (ch.launch c).connection.remote.states ch.id = [ProcessInfo.finishedState]) ∨
        (ch.launch c).result = .ok () ∧ ch.launchAbandons c = false ∧
          c.remote.states ch.id = [] ∧
          (ch.launch c).connection.remote.states ch.id = [ProcessInfo.runningState]) := by
  have hcreate := c.create_served ch.processConfig
  unfold launch launchAbandons
  generalize c.perform (.createProcess ch.processConfig) = created at hcreate ⊢
  obtain ⟨result, c₁⟩ := created
  rcases hcreate with ⟨error, rfl, halike⟩ | ⟨rfl, hnew, halike⟩
  · exact ⟨.of_alike hs halike, .inl ⟨_, rfl, rfl, halike.states _⟩⟩
  · have hs₁ := halike.tidy (hs.withProcess hnew ch.nodup_enabledOutputs)
    have hempty : c.remote.states ch.id = [] := by
      have hno : c.remote.held ch.id = [] :=
        List.filter_eq_nil_iff.mpr fun p hp he => hnew p hp (beq_iff_eq.mp he)
      rw [Simulated.states, hno]
      rfl
    have hconfined : Confined ch.id c.remote c₁.remote :=
      ⟨hs₁, (halike.others _).trans (Simulated.others_withProcess c.remote ch.processConfig)⟩
    obtain ⟨p, hp, hid, href, hfinished⟩ : ∃ p ∈ c₁.remote.processes,
        p.info.id = "restreamer-" ++ toString (c.remote.processCount + 1) ∧
          p.info.reference = ch.id ∧ p.info.state = ProcessInfo.finishedState := by
      rw [halike.processes]
      exact ⟨_, List.mem_append_right _ (List.mem_singleton_self _), rfl, rfl, rfl⟩
    have hstart := command_confined hs₁ hp .start
    rw [hid, href] at hstart
    simp only
    generalize c₁.perform (.command _ .start) = commanded at hstart ⊢
    obtain ⟨result, c₂⟩ := commanded
    rcases hstart with ⟨error, rfl, _, hsame⟩ | ⟨rfl, hrun, hmem⟩
    · have hdelete := delete_confined (hsame.tidy hs₁) (hsame.processes ▸ hp)
      rw [hid, href, hfinished] at hdelete
      have hall := hconfined.trans (.of_alike hs₁ hsame)
      obtain ⟨hdelete, ⟨hok, hstates⟩ | ⟨hok, hstates⟩⟩ := hdelete
      · refine ⟨hall.trans hdelete, .inl ⟨_, rfl, congrArg Bool.not hok, ?_⟩⟩
        exact hstates.trans hempty.symm
      · exact ⟨hall.trans hdelete, .inr (.inl ⟨_, rfl, congrArg Bool.not hok, hempty, hstates⟩)⟩
    · have hstates := hrun.tidy.states_eq hmem
      refine ⟨hconfined.trans hrun, .inr (.inr ⟨rfl, rfl, hempty, ?_⟩)⟩
      rw [← href]
      exact hstates

end Channel

end Simulcast
