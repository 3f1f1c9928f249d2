import Simulcast.Proofs.Channel.Lifecycle
import Simulcast.Proofs.Process.Confined
import Simulcast.Proofs.Remote.Tended

/-!
# A channel and its process

At the simulated service a channel either refers to no process and none stands under its id, or it
refers to one that runs, or its process was abandoned: that one has finished and stands in the way
of every later start. Each operation on the channel keeps it so, and touches no process that stands
under another id.
-/

namespace Simulcast

/-- How a channel and the service agree about the process of the channel. The flag tells whether it
was abandoned. -/
inductive Tie (ch : Channel) (s : Simulated) : Bool → Prop where
  | free (hp : ch.processReference = none) (hs : s.states ch.id = []) : Tie ch s false
  | bound (hp : ch.processReference = some ch.id)
      (hs : s.states ch.id = [ProcessInfo.runningState]) : Tie ch s false
  | lost (hp : ch.processReference = none)
      (hs : s.states ch.id = [ProcessInfo.finishedState]) : Tie ch s true

theorem Tie.congr {ch ch' : Channel} {s t : Simulated} {abandoned : Bool}
    (h : Tie ch s abandoned) (hid : ch'.id = ch.id)
    (hp : ch'.processReference = ch.processReference) (hs : t.states ch.id = s.states ch.id) :
    Tie ch' t abandoned := by
  rw [← hid] at hs
  cases h with
  | free hp' hs' => exact .free (hp.trans hp') (hs.trans (hid ▸ hs'))
  | bound hp' hs' => exact .bound (hp.trans (hid ▸ hp')) (hs.trans (hid ▸ hs'))
  | lost hp' hs' => exact .lost (hp.trans hp') (hs.trans (hid ▸ hs'))

theorem Tie.running {ch : Channel} {s : Simulated} {abandoned : Bool} {reference : String}
    (h : Tie ch s abandoned) (hp : ch.processReference = some reference) :
    s.states ch.id = [ProcessInfo.runningState] := by
  cases h with
  | free hnone | lost hnone => cases hnone.symm.trans hp
  | bound _ hs => exact hs

theorem Tie.idle {ch : Channel} {s : Simulated} {abandoned : Bool} (h : Tie ch s abandoned)
    (hp : ch.processReference = none) :
    s.states ch.id = if abandoned then [ProcessInfo.finishedState] else [] := by
  cases h with
  | free _ hs | lost _ hs => exact hs
  | bound hsome => cases hp.symm.trans hsome

theorem Tie.refersTo {ch : Channel} {s : Simulated} {abandoned : Bool} (h : Tie ch s abandoned) :
    ch.RefersTo ch.id := by
  intro r hr
  cases h with
  | free hp | lost hp => cases hp.symm.trans hr
  | bound hp => exact (Option.some.inj (hp.symm.trans hr)).symm

namespace Channel

/-- What an operation on a channel leaves of the channel and the service. -/
structure Upheld (reference : String) (s : Simulated) (abandoned : Bool) (ch' : Channel)
    (t : Simulated) : Prop extends Confined reference s t where
  tie : Tie ch' t abandoned

variable {ch : Channel} {c : Connection Simulated} {abandoned : Bool}

theorem upheld_unchanged (hs : c.remote.Tidy) (ht : Tie ch c.remote abandoned) {ch' : Channel}
    (hid : ch'.id = ch.id) (hp : ch'.processReference = ch.processReference) :
    Upheld ch.id c.remote (abandoned || false) ch' c.remote :=
  ⟨.of_alike hs (.refl _), by simpa using ht.congr hid hp rfl⟩

theorem teardown_upheld (hs : c.remote.Tidy) (ht : Tie ch c.remote abandoned) :
    (∃ error, (ch.teardown c).1 = .error error ∧ ch.teardownAbandons c = false ∧
        Upheld ch.id c.remote abandoned ch (ch.teardown c).2.remote) ∨
      (ch.teardown c).1 = .ok () ∧
        Upheld ch.id c.remote (abandoned || ch.teardownAbandons c) ch.unbound
          (ch.teardown c).2.remote := by
  have gone (hp : ch.processReference = none) : (ch.teardown c).1 = .ok () ∧
      Upheld ch.id c.remote (abandoned || ch.teardownAbandons c) ch.unbound
        (ch.teardown c).2.remote := by
    obtain ⟨hteardown, habandons⟩ := teardown_none hp c
    rw [hteardown, habandons]
    exact ⟨rfl, upheld_unchanged hs ht rfl hp.symm⟩
  cases ht with
  | free hp _ => exact .inr (gone hp)
  | lost hp _ => exact .inr (gone hp)
  | bound hp hrun =>
    obtain ⟨hconfined, hcases⟩ := teardown_confined hp hs hrun
    rcases hcases with ⟨error, hr, hno, hstates⟩ | ⟨hr, hno, hstates⟩ | ⟨hr, hyes, hstates⟩
    · exact .inl ⟨error, hr, hno, hconfined, .bound hp hstates⟩
    · rw [hno]
      exact .inr ⟨hr, hconfined, .free rfl hstates⟩
    · rw [hyes]
      exact .inr ⟨hr, hconfined, .lost rfl hstates⟩

theorem launch_upheld (hs : c.remote.Tidy) (ht : Tie ch c.remote abandoned)
    (hp : ch.processReference = none) :
    Upheld ch.id c.remote (abandoned || ch.launchAbandons c) (ch.launch c).channel
      (ch.launch c).connection.remote := by
  obtain ⟨hconfined, hcases⟩ := launch_confined ch hs
  have hchannel := ch.launch_cases c
  generalize (ch.launch c).channel = ch' at hchannel ⊢
  generalize (ch.launch c).connection = c' at hconfined hcases ⊢
  generalize (ch.launch c).result = result at hchannel hcases
  rcases hcases with ⟨error, rfl, hno, hstates⟩ | ⟨error, rfl, hyes, hempty, hstates⟩ |
    ⟨rfl, hno, hempty, hstates⟩
  · obtain ⟨_, _, rfl⟩ | ⟨⟨⟩, _⟩ := hchannel
    rw [hno, Bool.or_false]
    exact ⟨hconfined, ht.congr rfl rfl hstates⟩
  · obtain ⟨_, _, rfl⟩ | ⟨⟨⟩, _⟩ := hchannel
    rw [hyes, Bool.or_true]
    exact ⟨hconfined, .lost hp hstates⟩
  · obtain ⟨_, ⟨⟩, _⟩ | ⟨_, rfl⟩ := hchannel
    rw [hno, Bool.or_false]
    cases ht with
    | free => exact ⟨hconfined, .bound rfl hstates⟩
    | bound hsome => cases hp.symm.trans hsome
    | lost _ hfinished => cases hempty.symm.trans hfinished

theorem Upheld.trans {reference : String} {s t u : Simulated} {first second : Bool}
    {ch' ch'' : Channel} (h : Upheld reference s first ch' t)
    (h' : Upheld reference t second ch'' u) : Upheld reference s second ch'' u :=
  ⟨h.toConfined.trans h'.toConfined, h'.tie⟩

theorem startRemote_upheld (hs : c.remote.Tidy) (ht : Tie ch c.remote abandoned) :
    Upheld ch.id c.remote (abandoned || ch.startRemoteAbandons c) (ch.startRemote c).channel
      (ch.startRemote c).connection.remote := by
  unfold startRemote startRemoteAbandons
  split_ifs
  · exact upheld_unchanged hs ht rfl rfl
  · exact upheld_unchanged hs ht rfl rfl
  · have hdown := teardown_upheld hs ht
    generalize ch.teardownAbandons c = first at hdown ⊢
    generalize ch.teardown c = teardown at hdown ⊢
    obtain ⟨result, c₁⟩ := teardown
    obtain ⟨error, rfl, _, hup⟩ | ⟨rfl, hup⟩ := hdown
    · simp only [Bool.or_false]
      exact ⟨hup.toConfined, hup.tie.congr rfl rfl rfl⟩
    · have hready : Tie { ch with processReference := none, status := .starting } c₁.remote
          (abandoned || first) := hup.tie.congr rfl rfl rfl
      have hlaunch := launch_upheld hup.tidy hready rfl
      rw [Bool.or_assoc] at hlaunch
      exact hup.trans hlaunch

theorem start_upheld (hs : c.remote.Tidy) (ht : Tie ch c.remote abandoned) :
    Upheld ch.id c.remote (abandoned || ch.startAbandons c) (ch.start c).channel
      (ch.start c).connection.remote := by
  unfold start startAbandons
  cases ch.status with
  | active | starting | preview | stopping => exact upheld_unchanged hs ht rfl rfl
  | inactive | error =>
    have hup := startRemote_upheld hs ht
    simp only
    generalize ch.startRemoteAbandons c = abandons at hup ⊢
    generalize ch.startRemote c = outcome at hup ⊢
    obtain ⟨error | _, ch', c'⟩ := outcome
    · exact hup
    · exact ⟨hup.toConfined, hup.tie.congr rfl rfl rfl⟩

theorem stopRemote_upheld (hs : c.remote.Tidy) (ht : Tie ch c.remote abandoned) :
    Upheld ch.id c.remote (abandoned || ch.teardownAbandons c) (ch.stopRemote c).channel
      (ch.stopRemote c).connection.remote := by
  have hdown := teardown_upheld hs ht
  have hsame : ({ ch with status := .stopping } : Channel).teardown c = ch.teardown c := rfl
  unfold stopRemote
  simp only [hsame]
  generalize ch.teardownAbandons c = abandons at hdown ⊢
  generalize ch.teardown c = teardown at hdown ⊢
  obtain ⟨result, c'⟩ := teardown
  obtain ⟨error, rfl, rfl, hup⟩ | ⟨rfl, hup⟩ := hdown
  · simp only [Bool.or_false]
    exact ⟨hup.toConfined, hup.tie.congr rfl rfl rfl⟩
  · exact ⟨hup.toConfined, hup.tie.congr rfl rfl rfl⟩

theorem stop_upheld (hs : c.remote.Tidy) (ht : Tie ch c.remote abandoned) :
    Upheld ch.id c.remote (abandoned || ch.stopAbandons c) (ch.stop c).channel
      (ch.stop c).connection.remote := by
  unfold stop stopAbandons
  cases ch.status with
  | inactive | starting | stopping => exact upheld_unchanged hs ht rfl rfl
  | active | preview | error => exact stopRemote_upheld hs ht

theorem restart_upheld (hs : c.remote.Tidy) (ht : Tie ch c.remote abandoned) :
    Upheld ch.id c.remote (abandoned || ch.restartAbandons c) (ch.restart c).channel
      (ch.restart c).connection.remote := by
  have hstop := stop_upheld hs ht
  have hid : (ch.stop c).channel.id = ch.id := Operation.stop.id_run ch c
  unfold restart restartAbandons
  generalize ch.stopAbandons c = first at hstop ⊢
  generalize ch.stop c = outcome at hstop hid ⊢
  obtain ⟨error | _, ch', c'⟩ := outcome
  · exact hstop
  · have hstart := start_upheld hstop.tidy hstop.tie
    rw [Bool.or_assoc] at hstart
    simp only at hid hstart ⊢
    rw [hid] at hstart
    exact hstop.trans hstart

theorem startPreview_upheld (duration : Duration) (hs : c.remote.Tidy)
    (ht : Tie ch c.remote abandoned) :
    Upheld ch.id c.remote (abandoned || (Operation.startPreview duration).abandons ch c)
      (ch.startPreview duration c).channel (ch.startPreview duration c).connection.remote := by
  simp only [startPreview, Operation.abandons]
  split_ifs
  · have hup := startRemote_upheld hs ht
    generalize ch.startRemoteAbandons c = abandons at hup ⊢
    generalize ch.startRemote c = outcome at hup ⊢
    obtain ⟨error | _, ch', c'⟩ := outcome
    · exact ⟨hup.toConfined, hup.tie.congr rfl rfl rfl⟩
    · exact ⟨hup.toConfined, hup.tie.congr rfl rfl rfl⟩
  · exact upheld_unchanged hs ht rfl rfl

theorem cancelPreview_upheld (hs : c.remote.Tidy) (ht : Tie ch c.remote abandoned) :
    Upheld ch.id c.remote (abandoned || Operation.cancelPreview.abandons ch c)
      (ch.cancelPreview c).channel (ch.cancelPreview c).connection.remote := by
  simp only [cancelPreview, Operation.abandons]
  split_ifs
  · exact stopRemote_upheld hs ht
  · exact upheld_unchanged hs ht rfl rfl

theorem goLive_upheld (hs : c.remote.Tidy) (ht : Tie ch c.remote abandoned) :
    Upheld ch.id c.remote (abandoned || false) (Outcome.edited ch ch.goLive c).channel
      (Outcome.edited ch ch.goLive c).connection.remote := by
  unfold goLive
  split_ifs <;> exact upheld_unchanged hs ht rfl rfl

theorem Operation.abandons_eq_false (op : Operation) (hk : op.kind ≠ .lifecycle) (ch : Channel)
    (c : Connection Simulated) : op.abandons ch c = false := by
  cases op with
  | start | stop | restart | startPreview | cancelPreview => exact (hk rfl).elim
  | _ => rfl

/-- Every operation on a channel keeps up what the channel and the service agree about, and leaves
the processes under other references alone. -/
theorem Operation.upheld (op : Operation) (hs : c.remote.Tidy) (ht : Tie ch c.remote abandoned) :
    Upheld ch.id c.remote (abandoned || op.abandons ch c) (op.run ch c).channel
      (op.run ch c).connection.remote := by
  cases hk : op.kind with
  | tending =>
    obtain ⟨hskeleton, htended⟩ := op.run_tended (tending_simulated ch.id) ht.refersTo hk c
    rw [op.abandons_eq_false (by simp [hk]), Bool.or_false]
    refine ⟨⟨htended.tidy hs, htended.others hs.toNamed⟩, ?_⟩
    have hstanding := standing_eq hskeleton
    exact ht.congr (congrArg Standing.id hstanding) (congrArg Standing.processReference hstanding)
      (htended.states ch.id)
  | wiring =>
    obtain ⟨hstanding, hc⟩ := op.run_wired hk ch c
    rw [op.abandons_eq_false (by simp [hk]), hc]
    exact upheld_unchanged hs ht (congrArg Standing.id hstanding)
      (congrArg Standing.processReference hstanding)
  | lifecycle =>
    cases op with
    | start => exact start_upheld hs ht
    | stop => exact stop_upheld hs ht
    | restart => exact restart_upheld hs ht
    | startPreview duration => exact startPreview_upheld duration hs ht
    | goLive => exact goLive_upheld hs ht
    | cancelPreview => exact cancelPreview_upheld hs ht
    | _ => cases hk

end Channel

end Simulcast
