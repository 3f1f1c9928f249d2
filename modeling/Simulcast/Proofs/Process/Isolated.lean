import Simulcast.Proofs.Channel.Settled
import Simulcast.Proofs.Channel.Steady
import Simulcast.Proofs.Remote.Tended

/-!
# Processes under other references

Whoever calls the service, its processes keep names of their own. So what is done about the process
under a reference, whether it goes well or not, leaves the processes under other references alone,
and every operation on a channel is about the reference of that channel.
-/

namespace Simulcast

open Simulated (Alike)

/-! ### Names at the service -/

namespace Simulated

theorem serve_named {s : Simulated} (h : s.Named) (request : Request) :
    (s.serve request).2.Named := by
  cases request with
  | listProcesses => exact h
  | getProcess id | getOutputs id =>
    simp only [serve]
    cases s.find? id <;> exact h
  | createProcess config =>
    simp only [serve, create]
    split_ifs with hany
    · exact h
    · refine h.withProcess fun p hp he => hany ?_
      exact List.any_eq_true.mpr ⟨p, hp, beq_iff_eq.mpr he⟩
  | command id command =>
    simp only [serve]
    cases s.find? id with
    | none => exact h
    | some p => exact h.change id (modest_withState _)
  | deleteProcess id =>
    simp only [serve]
    cases s.find? id with
    | none => exact h
    | some p => exact h.withoutProcess id
  | addOutput id output =>
    simp only [serve]
    cases s.find? id with
    | none => exact h
    | some p =>
      simp only
      split_ifs
      · exact h
      · exact h.change id (.of_info fun _ => rfl)
  | removeOutput id output =>
    simp only [serve]
    cases s.find? id with
    | none => exact h
    | some p =>
      simp only
      split_ifs
      · exact h.change id (.of_info fun _ => rfl)
      · exact h

theorem answer_named {s : Simulated} (h : s.Named) (call : Call) : (s.answer call).2.Named := by
  have hentered := (s.enter_alike call.kind).named h
  unfold answer
  generalize s.enter call.kind = entered at hentered ⊢
  obtain ⟨_ | _, t⟩ := entered
  · cases call with
    | login username password => exact (t.login_quiet username password).alike.named hentered
    | refresh token => exact (t.refresh_quiet token).alike.named hentered
    | perform token request =>
      simp only [respond]
      split_ifs
      · exact serve_named hentered request
      · exact hentered
  · exact hentered

end Simulated

namespace Connection

variable {c : Connection Simulated}

theorem passing_named : Passing (fun _ => True)
    fun c c' : Connection Simulated => c.remote.Named → c'.remote.Named where
  refl := fun _ => id
  trans := fun h h' hs => h' (h hs)
  session := fun _ _ => id
  ask := fun _ call _ hs => Simulated.answer_named hs call

theorem steady_named : Steady fun c : Connection Simulated => c.remote.Named where
  sleep := fun h _ => h
  perform := fun {c} h request =>
    perform_passing passing_named (fun _ _ => trivial) c request (fun _ => trivial) h

end Connection

/-! ### Under one reference -/

/-- Only what is under the reference may change. -/
def Isolates (reference : String) (s t : Simulated) : Prop :=
  s.Named → t.Named ∧ t.others reference = s.others reference

namespace Isolates

variable {reference : String} {s t u : Simulated}

theorem of_alike (h : Alike s t) : Isolates reference s t :=
  fun hs => ⟨h.named hs, h.others reference⟩

theorem trans (h : Isolates reference s t) (h' : Isolates reference t u) :
    Isolates reference s u := by
  intro hs
  obtain ⟨ht, hfirst⟩ := h hs
  obtain ⟨hu, hsecond⟩ := h' ht
  exact ⟨hu, hsecond.trans hfirst⟩

end Isolates

def names (p : RunningProcess) : String × String := (p.info.id, p.info.reference)

theorem standsUnder_iff_names (reference id : String) (s : Simulated) :
    StandsUnder reference id s ↔ (id, reference) ∈ s.processes.map names := by
  simp only [StandsUnder, names, List.mem_map, Prod.mk.injEq]

theorem StandsUnder.change {reference id : String} {s : Simulated} (h : StandsUnder reference id s)
    (target : String) {f : RunningProcess → RunningProcess} (hf : Simulated.Modest f) :
    StandsUnder reference id (s.change target f) := by
  have hnames (p : RunningProcess) : names (f p) = names p := Prod.ext (hf.id p) (hf.reference p)
  rw [standsUnder_iff_names] at h ⊢
  exact (Simulated.map_changeFirst target hnames s.processes).symm ▸ h

theorem handling_isolates (reference : String) :
    Handling (· = reference)
      (fun c c' : Connection Simulated => Isolates reference c.remote c'.remote)
      (fun c id => StandsUnder reference id c.remote) where
  refl := fun c => .of_alike (.refl c.remote)
  trans := .trans
  find := fun c r _ => .of_alike (c.findProcess_served r).1
  found := by
    rintro c r p rfl hp
    exact (tending_simulated r).found c p hp
  create := by
    rintro c config rfl
    obtain ⟨_, _, halike⟩ | ⟨_, hnew, halike⟩ := c.create_served config
    · exact .of_alike halike
    · intro hs
      refine ⟨halike.named (hs.withProcess hnew), ?_⟩
      exact (halike.others _).trans (c.remote.others_withProcess config)
  created := by
    rintro c config id rfl hok
    obtain ⟨_, herror, _⟩ | ⟨hid, _, halike⟩ := c.create_served config
    · cases herror.symm.trans hok
    · rw [StandsUnder, halike.processes]
      obtain rfl := Except.ok.inj (hid.symm.trans hok)
      exact ⟨_, List.mem_append_right _ List.mem_cons_self, rfl, rfl⟩
  command := by
    rintro c id command ⟨p, hp, rfl, rfl⟩
    obtain ⟨_, _, _, halike⟩ | ⟨_, halike⟩ := c.command_served p.info.id command
    · exact .of_alike halike
    · have hmodest := Simulated.modest_withState (Simulated.stateAfter command)
      refine .trans (fun hs => ?_) (.of_alike halike)
      exact ⟨hs.change p.info.id hmodest, hs.others_change hp hmodest⟩
  commanded := by
    intro c id command hk
    obtain ⟨_, _, _, halike⟩ | ⟨_, halike⟩ := c.command_served id command
    · rwa [StandsUnder, halike.processes]
    · rw [StandsUnder, halike.processes]
      exact hk.change id (Simulated.modest_withState _)
  delete := by
    rintro c id ⟨p, hp, rfl, rfl⟩
    obtain ⟨_, halike⟩ | ⟨_, halike⟩ := c.delete_served p.info.id
    · exact .of_alike halike
    · refine .trans (fun hs => ?_) (.of_alike halike)
      exact ⟨hs.withoutProcess p.info.id, hs.others_withoutProcess hp⟩

namespace Channel

theorem Settled.concerns {ch : Channel} (h : ch.Settled) : ch.Concerns (· = ch.id) where
  held := by
    intro reference hp
    rcases h.own with hnone | hown
    · cases hnone.symm.trans hp
    · exact (Option.some.inj (hown.symm.trans hp)).symm
  own := rfl

theorem Settled.run_isolates {ch : Channel} (h : ch.Settled) (op : Operation)
    (c : Connection Simulated) : Isolates ch.id c.remote (op.run ch c).connection.remote := by
  cases hk : op.kind with
  | tending =>
    have htended := (op.run_tended (tending_simulated ch.id) h.concerns.held hk c).2
    exact fun hs => ⟨htended.named hs, htended.others hs⟩
  | wiring =>
    rw [(op.run_wired hk ch c).2]
    exact .of_alike (.refl c.remote)
  | lifecycle => exact op.run_handled (handling_isolates ch.id) h.concerns hk c

end Channel

end Simulcast
