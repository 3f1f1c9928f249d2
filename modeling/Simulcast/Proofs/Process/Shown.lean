import Simulcast.Proofs.Channel.Settled
import Simulcast.Proofs.Process.Broadcasting
import Simulcast.Proofs.Process.Upheld

/-!
# What the process of a channel carries

A process is launched with the outputs that are enabled. In a preview it keeps those, whatever is
switched meanwhile; on the air it follows what is switched. So it carries what is enabled, unless
it went live when something else was enabled than when the preview began.
-/

namespace Simulcast.Channel

/-- The ids under which the enabled outputs are to be on the air. -/
def wanted (ch : Channel) : List String := ch.enabledOutputs.map (·.id)

/-- What is kept in mind of the previews of a channel. -/
structure Previews where
  /-- What was wanted on the air when the last preview began. -/
  wanted : List String := []
  /-- The processes that went live when something else was wanted. -/
  altered : List String := []

def Previews.after (r : Previews) (op : Operation) (ch : Channel) (c : Connection Simulated) :
    Previews :=
  match op with
  | .startPreview _ => if ch.status = .inactive then { r with wanted := ch.wanted } else r
  | .goLive =>
    if ch.status = .preview ∧ r.wanted ≠ ch.wanted then
      { r with altered := r.altered ++ (c.remote.held ch.id).map (·.info.id) }
    else r
  | _ => r

@[simp] theorem Previews.after_startPreview (r : Previews) (duration : Duration) (ch : Channel)
    (c : Connection Simulated) :
    r.after (.startPreview duration) ch c =
      if ch.status = .inactive then { r with wanted := ch.wanted } else r := rfl

@[simp] theorem Previews.after_goLive (r : Previews) (ch : Channel) (c : Connection Simulated) :
    r.after .goLive ch c =
      if ch.status = .preview ∧ r.wanted ≠ ch.wanted then
        { r with altered := r.altered ++ (c.remote.held ch.id).map (·.info.id) }
      else r := rfl

/-- In a preview the process of the channel carries what was wanted when the preview began; on the
air it carries what is wanted now, unless it was altered on the way there. -/
structure Matched (r : Previews) (ch : Channel) (s : Simulated) : Prop where
  shown : ch.status = .preview → ∀ p ∈ s.held ch.id, ∀ x, x ∈ p.outputIds ↔ x ∈ r.wanted
  live : ch.status = .active → ∀ p ∈ s.held ch.id, p.info.id ∉ r.altered →
    ∀ x, x ∈ p.outputIds ↔ ch.Airs x

theorem Matched.off {r : Previews} {ch : Channel} {s : Simulated}
    (h : ch.status ≠ .preview ∧ ch.status ≠ .active) : Matched r ch s :=
  ⟨fun hp => (h.1 hp).elim, fun ha => (h.2 ha).elim⟩

theorem Matched.congr {r : Previews} {ch : Channel} {s t : Simulated} (h : Matched r ch s)
    (hheld : t.held ch.id = s.held ch.id) : Matched r ch t := by
  obtain ⟨shown, live⟩ := h
  rw [← hheld] at shown live
  exact ⟨shown, live⟩

/-! ### Launching -/

theorem launched_faces (ch : Channel) : ch.launched.faces = ch.faces := by
  simp only [launched, started, faces, List.map_map]
  rfl

theorem launch_shown {ch : Channel} {c : Connection Simulated}
    (hr : (ch.launch c).result = .ok ()) :
    ∀ p ∈ (ch.launch c).connection.remote.held ch.id, p.outputIds = ch.wanted := by
  obtain ⟨hnew, halike⟩ := launch_served hr
  intro p hp
  obtain ⟨hmem, href⟩ := Simulated.mem_held.mp hp
  have hsame : (ch.launch c).connection.remote.processes.map
        (fun q => (q.info.reference, q.outputs)) =
      (c.remote.withProcess ch.processConfig).processes.map
        fun q => (q.info.reference, q.outputs) := by
    rw [halike.processes]
    exact Simulated.map_changeFirst (f := (·.withState ProcessInfo.runningState)) _
      (fun _ => rfl) _
  have hkey : (ch.id, p.outputs) ∈ (c.remote.withProcess ch.processConfig).processes.map
      fun q => (q.info.reference, q.outputs) := by
    rw [← hsame, ← href]
    exact List.mem_map_of_mem hmem
  obtain ⟨q, hq, hkeys⟩ := List.mem_map.mp hkey
  obtain ⟨hqref, hqout⟩ := Prod.mk.inj hkeys
  rcases List.mem_append.mp hq with hold | hq
  · exact (hnew q hold hqref).elim
  · obtain rfl := List.mem_singleton.mp hq
    exact (congrArg (List.map (·.id)) hqout).symm

theorem startRemote_shown (ch : Channel) (c : Connection Simulated)
    (hr : (ch.startRemote c).result = .ok ()) :
    ∀ p ∈ (ch.startRemote c).connection.remote.held ch.id, p.outputIds = ch.wanted := by
  unfold startRemote at hr ⊢
  split_ifs at hr ⊢
  · cases hr
  · cases hr
  · generalize ch.teardown c = down at hr ⊢
    obtain ⟨error | _, c'⟩ := down
    · cases hr
    · exact launch_shown hr

variable {r : Previews} {ch : Channel} {c : Connection Simulated}

theorem start_matched (h : Matched r ch c.remote) :
    Matched r (ch.start c).channel (ch.start c).connection.remote := by
  have hcases := ch.startRemote_cases c
  have hshown := startRemote_shown ch c
  unfold start
  cases hs : ch.status with
  | active | starting | preview | stopping => exact h
  | inactive | error =>
    generalize ch.startRemote c = outcome at hcases hshown ⊢
    obtain ⟨result, ch', c'⟩ := outcome
    rcases hcases with ⟨error, rfl, rfl | rfl⟩ | ⟨rfl, rfl⟩
    · exact .off ⟨nofun, nofun⟩
    · exact .off ⟨nofun, nofun⟩
    · refine ⟨nofun, fun _ p hp _ x => ?_⟩
      rw [hshown rfl p hp]
      exact (ch.airs_iff_enabledOutputs x).symm.trans (airs_congr ch.launched_faces x).symm

theorem stopRemote_matched (r : Previews) (ch : Channel) (c : Connection Simulated)
    (s : Simulated) : Matched r (ch.stopRemote c).channel s := by
  rcases ch.stopRemote_cases c with ⟨error, _, _, hch⟩ | ⟨_, hch⟩ <;> rw [hch] <;>
    exact .off ⟨nofun, nofun⟩

theorem stop_matched (h : Matched r ch c.remote) :
    Matched r (ch.stop c).channel (ch.stop c).connection.remote := by
  unfold stop
  cases ch.status with
  | inactive | starting | stopping => exact h
  | active | preview | error => exact stopRemote_matched r ch c _

theorem restart_matched (h : Matched r ch c.remote) :
    Matched r (ch.restart c).channel (ch.restart c).connection.remote := by
  have hstop := stop_matched h
  unfold restart
  generalize ch.stop c = stopped at hstop ⊢
  obtain ⟨error | _, ch', c'⟩ := stopped
  · exact hstop
  · exact start_matched hstop

theorem cancelPreview_matched (h : Matched r ch c.remote) :
    Matched r (ch.cancelPreview c).channel (ch.cancelPreview c).connection.remote := by
  unfold cancelPreview
  split_ifs
  · exact stopRemote_matched r ch c _
  · exact h

theorem startPreview_matched (h : Matched r ch c.remote) (duration : Duration) :
    Matched (r.after (.startPreview duration) ch c) (ch.startPreview duration c).channel
      (ch.startPreview duration c).connection.remote := by
  have hcases := ch.startRemote_cases c
  have hshown := startRemote_shown ch c
  unfold startPreview
  rw [Previews.after_startPreview]
  split_ifs
  · generalize ch.startRemote c = outcome at hcases hshown ⊢
    obtain ⟨result, ch', c'⟩ := outcome
    rcases hcases with ⟨error, rfl, rfl | rfl⟩ | ⟨rfl, rfl⟩
    · exact .off ⟨nofun, nofun⟩
    · exact .off ⟨nofun, nofun⟩
    · refine ⟨fun _ p hp x => ?_, nofun⟩
      rw [hshown rfl p hp]
  · exact h

theorem goLive_matched (h : Matched r ch c.remote) :
    Matched (r.after .goLive ch c) (Outcome.edited ch ch.goLive c).channel
      (Outcome.edited ch ch.goLive c).connection.remote := by
  unfold goLive
  rw [Previews.after_goLive]
  by_cases hp : ch.status = .preview
  · simp only [hp, if_true, true_and]
    refine ⟨nofun, fun _ p hmem hnew x => ?_⟩
    split_ifs at hnew with hwanted
    · exact (hnew (List.mem_append_right _ (List.mem_map_of_mem hmem))).elim
    · rw [h.shown hp p hmem, not_not.mp hwanted]
      exact (ch.airs_iff_enabledOutputs x).symm
  · simp only [hp, if_false, false_and]
    exact h

/-! ### Between launches -/

theorem Operation.infos_run {op : Operation} (hk : op.kind ≠ .lifecycle) (ch : Channel)
    (c : Connection Simulated) :
    (op.run ch c).connection.remote.processes.map (·.info) =
      c.remote.processes.map (·.info) := by
  cases hkind : op.kind with
  | lifecycle => exact (hk hkind).elim
  | wiring => rw [(op.run_wired hkind ch c).2]
  | tending =>
    exact (op.run_tended (tending_simulated _) ch.refersTo_getD hkind c).2.infos

theorem Matched.keep (h : Matched r ch c.remote) {op : Operation} (hop : op.Broadcasts)
    (hk : op.kind ≠ .lifecycle) (hs : c.remote.Tidy) {abandoned : Bool}
    (ht : Tie ch c.remote abandoned) (hsettled : ch.Settled) (hlinked : ch.Linked)
    (ha : Answering c) :
    Matched r (op.run ch c).channel (op.run ch c).connection.remote := by
  have hstanding := op.standing_run hk ch c
  have hid : (op.run ch c).channel.id = ch.id := congrArg Standing.id hstanding
  have hstatus : (op.run ch c).channel.status = ch.status := congrArg Standing.status hstanding
  refine ⟨fun hp => ?_, fun hactive p hp hnew x => ?_⟩
  · rw [hstatus] at hp
    rw [hid, hop.run_offAir hk (by rw [hp]; exact nofun)]
    exact h.shown hp
  · rw [hstatus] at hactive
    obtain ⟨hmem, href⟩ := Simulated.mem_held.mp hp
    rw [hid] at href
    obtain ⟨q, hq, hinfo⟩ : ∃ q ∈ c.remote.processes, q.info = p.info := by
      rw [← List.mem_map, ← op.infos_run hk ch c]
      exact List.mem_map_of_mem hmem
    rw [← hinfo] at href hnew
    have hrefers := hsettled.live (.inl hactive)
    have hstates := hs.states_eq hq
    rw [href, ht.running hrefers] at hstates
    have hbefore : OnAir q.info ch c :=
      { active := hactive
        refers := hrefers.trans (congrArg some href.symm)
        running := (List.head_eq_of_cons_eq hstates).symm
        linked := hlinked
        held := ⟨ha, ⟨hs.ids, hs.references⟩, q, hq, rfl⟩
        agreed := fun x => (Simulated.Carries.of_find? (hs.find?_eq hq) x).trans
          (h.live hactive q (Simulated.mem_held.mpr ⟨hq, href⟩) hnew x) }
    have hafter := hbefore.run hop hk
    rw [hinfo] at hafter
    rw [← hafter.agreed]
    exact (Simulated.Carries.of_find? (find?_name hafter.held.apart.ids hmem) x).symm

/-- Whatever operation of a broadcast it meets, the channel and its process stay matched. -/
theorem Matched.run (h : Matched r ch c.remote) {op : Operation} (hop : op.Broadcasts)
    (hs : c.remote.Tidy) {abandoned : Bool} (ht : Tie ch c.remote abandoned)
    (hsettled : ch.Settled) (hlinked : ch.Linked) (ha : Answering c) :
    Matched (r.after op ch c) (op.run ch c).channel (op.run ch c).connection.remote := by
  by_cases hk : op.kind = .lifecycle
  · cases op with
    | start => exact start_matched h
    | stop => exact stop_matched h
    | restart => exact restart_matched h
    | startPreview duration => exact startPreview_matched h duration
    | goLive => exact goLive_matched h
    | cancelPreview => exact cancelPreview_matched h
    | _ => cases hk
  · have hkeep := h.keep hop hk hs ht hsettled hlinked ha
    have hsame : r.after op ch c = r := by
      cases op with
      | startPreview | goLive => exact (hk rfl).elim
      | _ => rfl
    rw [hsame]
    exact hkeep

end Simulcast.Channel
