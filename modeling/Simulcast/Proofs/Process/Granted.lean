import Simulcast.Proofs.Remote.Authenticating
import Simulcast.Proofs.Remote.Tidy
import Simulcast.Proofs.Channel.Lifecycle

/-!
# Taking a process down while nothing fails

Over a connection that can authenticate each request of a teardown is served. So the teardown
succeeds, and no process is left under the reference.
-/

namespace Simulcast

open Simulated (Alike)

variable {c : Connection Simulated}

namespace Authenticates

theorem command (h : Authenticates c) {id : String} {p : RunningProcess}
    (hp : c.remote.find? id = some p) (command : Command) :
    (c.perform (.command id command)).result = .ok () ∧
      Authenticates (c.perform (.command id command)).connection ∧
      Alike (c.remote.change id (·.withState (Simulated.stateAfter command)))
        (c.perform (.command id command)).connection.remote := by
  obtain ⟨s, halike, hresult, hremote, hnext⟩ := h.perform (.command id command)
  have hs : s.find? id = some p := (halike.find? id).trans hp
  simp only [Simulated.serve, hs] at hresult hremote
  refine ⟨hresult, hnext (by rw [hresult]; rfl), ?_⟩
  rw [hremote]
  exact halike.change _ _

theorem delete (h : Authenticates c) {id : String} {p : RunningProcess}
    (hp : c.remote.find? id = some p) :
    Alike (c.remote.withoutProcess id) (c.perform (.deleteProcess id)).connection.remote := by
  obtain ⟨s, halike, _, hremote, _⟩ := h.perform (.deleteProcess id)
  have hs : s.find? id = some p := (halike.find? id).trans hp
  simp only [Simulated.serve, hs] at hremote
  rw [hremote]
  exact halike.withoutProcess _

end Authenticates

namespace Channel

theorem teardown_granted (ch : Channel) (ha : Authenticates c) :
    (ch.teardown c).1 = .ok () ∧
      (c.remote.Named → ∀ reference, ch.processReference = some reference →
        (ch.teardown c).2.remote.held reference = []) := by
  unfold teardown
  cases hp : ch.processReference with
  | none => exact ⟨rfl, fun _ => nofun⟩
  | some reference =>
    obtain ⟨hfound, ha₁, hfind⟩ := ha.findProcess reference
    simp only
    generalize c.findProcess reference = found at hfound ha₁ hfind ⊢
    obtain ⟨result, c₁⟩ := found
    obtain rfl := hfound
    cases hheld : c.remote.findReference? reference with
    | none =>
      refine ⟨rfl, ?_⟩
      rintro _ _ ⟨⟩
      rw [Simulated.findReference?_eq_head?, List.head?_eq_none_iff] at hheld
      exact (hfind.held reference).trans hheld
    | some p =>
      have hp₁ : p ∈ c₁.remote.processes := hfind.processes ▸ List.mem_of_find?_eq_some hheld
      obtain ⟨q, hq⟩ : ∃ q, c₁.remote.find? p.info.id = some q :=
        Option.isSome_iff_exists.mp (List.find?_isSome.mpr ⟨p, hp₁, beq_self_eq_true _⟩)
      obtain ⟨hstopped, ha₂, hstop⟩ := ha₁.command hq .stop
      simp only [Option.map_some]
      generalize c₁.perform (.command p.info.id .stop) = stopped at hstopped ha₂ hstop ⊢
      obtain ⟨result, c₂⟩ := stopped
      obtain rfl := hstopped
      refine ⟨rfl, ?_⟩
      rintro hs _ ⟨⟩
      have hmodest := Simulated.modest_withState (Simulated.stateAfter .stop)
      have hs₁ : c₁.remote.Named := hfind.named hs
      have hs₂ : c₂.remote.Named := hstop.named (hs₁.change p.info.id hmodest)
      have href : p.info.reference = reference := by simpa using List.find?_some hheld
      have hheld₂ := (hstop.held p.info.reference).trans (hs₁.held_change hp₁ hmodest)
      have hp₂ := (Simulated.mem_held.mp (hheld₂ ▸ List.mem_singleton_self _)).1
      have hgone := hs₂.held_withoutProcess hp₂
      rw [← href]
      exact ((ha₂.delete (hs₂.find?_eq hp₂)).held _).trans hgone

end Channel

end Simulcast
