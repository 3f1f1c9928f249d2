import Simulcast.Proofs.Channel.Looking
import Simulcast.Proofs.Channel.Steady
import Simulcast.Proofs.Studio.Moves

/-!
# What a tick does and reports

A tick comes to one channel after the other. It passes over those that are due, and takes down the
previews that are over; the rest it leaves alone. What is due and what is over is judged at the time
the tick began, although reconnects may move the clock on the way. Every channel is met with the
connection that the channels before it left, whatever became of those.
-/

namespace Simulcast

namespace Channel

/-! ### What a tick goes by -/

/-- The channel is on the air and monitored, and there was no pass over it yet or none within its
interval. -/
structure CheckDue (ch : Channel) (now : Instant) : Prop where
  active : ch.status = .active
  monitored : ch.health.enabled = true
  elapsed : ∀ last, ch.lastCheck = some last →
    (ch.health.interval.nanos : Int) ≤ now.nanos - last.nanos

/-- The channel is in a preview, or in error with one, and in whole seconds the preview has run for
its whole time. A preview of no time never ends so. -/
structure PreviewOver (ch : Channel) (now : Instant) : Prop where
  previewing : ch.status = .preview ∨ ch.status = .error
  elapsed : ∃ p, ch.preview = some p ∧ p.secs ≠ 0 ∧ p.secs ≤ now.unix - p.startedAt

theorem healthCheckDue_iff (ch : Channel) (now : Instant) :
    ch.healthCheckDue now = true ↔ ch.CheckDue now := by
  have hparts : ch.CheckDue now ↔ ch.status = .active ∧ ch.health.enabled = true ∧
      ∀ last, ch.lastCheck = some last →
        (ch.health.interval.nanos : Int) ≤ now.nanos - last.nanos :=
    ⟨fun h => ⟨h.active, h.monitored, h.elapsed⟩, fun ⟨ha, hm, he⟩ => ⟨ha, hm, he⟩⟩
  rw [hparts, healthCheckDue, isActive, Bool.and_eq_true, Bool.and_eq_true, beq_iff_eq, and_assoc]
  refine and_congr_right fun _ => and_congr_right fun _ => ?_
  cases ch.lastCheck with
  | none => simp
  | some last =>
    simp only [Bool.and_eq_true, decide_eq_true_eq, Instant.le_def, Duration.le_def, Instant.since,
      Option.some.injEq, forall_eq']
    omega

theorem previewTimedOut_iff (ch : Channel) (now : Instant) :
    ch.previewTimedOut now = true ↔
      ∃ p, ch.preview = some p ∧ p.secs ≠ 0 ∧ p.secs ≤ now.unix - p.startedAt := by
  unfold previewTimedOut timedPreview?
  cases ch.preview with
  | none => simp
  | some p => by_cases hp : p.secs = 0 <;> simp [hp]

theorem previewOver_iff (ch : Channel) (now : Instant) :
    ((ch.status = .preview ∨ ch.status = .error) ∧ ch.previewTimedOut now = true) ↔
      ch.PreviewOver now := by
  rw [previewTimedOut_iff]
  exact ⟨fun ⟨hs, he⟩ => ⟨hs, he⟩, fun h => ⟨h.previewing, h.elapsed⟩⟩

instance (ch : Channel) (now : Instant) : Decidable (ch.CheckDue now) :=
  decidable_of_iff _ (ch.healthCheckDue_iff now)

instance (ch : Channel) (now : Instant) : Decidable (ch.PreviewOver now) :=
  decidable_of_iff _ (ch.previewOver_iff now)

theorem CheckDue.not_over {ch : Channel} {now : Instant} (h : ch.CheckDue now) :
    ¬ ch.PreviewOver now := by
  intro hover
  rcases hover.previewing with hs | hs <;> cases h.active.symm.trans hs

variable {σ : Type} [Service σ]

/-! ### What a pass leaves of a channel -/

theorem inspectEach_terms (present : List String) (checkedAt : Nat) (indices : List Nat)
    (ch : Channel) (c : Connection σ) :
    (inspectEach present checkedAt indices ch c).1.terms = ch.terms := by
  induction indices generalizing ch c with
  | nil => rfl
  | cons index rest ih =>
    exact (ih _ _).trans (inspectOutput_within c present checkedAt index ch).terms

theorem healthPass_terms (ch : Channel) (now : Instant) (c : Connection σ) :
    (ch.healthPass now c).2.1.terms = { ch with lastCheck := some now }.terms := by
  simp only [healthPass]
  generalize ({ ch with lastCheck := some now } : Channel).findProcess c = found
  obtain ⟨error | process, c₁⟩ := found
  · rfl
  · simp only
    split_ifs
    · generalize c₁.perform (.getOutputs process.id) = listed
      obtain ⟨error | present, c₂⟩ := listed
      · rfl
      · exact inspectEach_terms present now.unix _ _ c₂
    · exact inspectEach_terms [] now.unix _ _ c₁

theorem CheckDue.terms {ch : Channel} {now : Instant} (h : ch.CheckDue now) (c : Connection σ) :
    (ch.checkHealth c).2.1.terms = { ch with lastCheck := some c.now }.terms := by
  unfold checkHealth
  rw [if_pos ⟨h.active, h.monitored⟩]
  exact ch.healthPass_terms c.now c

/-! ### What becomes of a preview that is over -/

theorem PreviewOver.cancels {ch : Channel} {now : Instant} (h : ch.PreviewOver now)
    (c : Connection σ) : ch.cancelPreview c = ch.stopRemote c := by
  obtain ⟨hs, p, hp, _⟩ := h
  refine if_pos (hs.imp_right fun herror => ⟨herror, ?_⟩)
  rw [isPreviewing, hp]
  rfl

end Channel

namespace Studio

variable {σ : Type} [Service σ]

/-! ### One channel -/

def afterVisit (now : Instant) (ch : Channel) (c : Connection σ) : Connection σ :=
  if ch.CheckDue now then (ch.checkHealth c).2.2
  else if ch.PreviewOver now then (ch.cancelPreview c).connection
  else c

/-- What a tick makes of a channel that it meets with a connection. -/
structure Ticked (now : Instant) (met : Channel × Connection σ) (ch' : Channel) : Prop where
  checked : met.1.CheckDue now →
    ch' = (met.1.checkHealth met.2).2.1 ∧ ch'.status = .active ∧
      ∃ last, ch'.lastCheck = some last ∧ now ≤ last
  expired : met.1.PreviewOver now → (met.1.cancelPreview met.2).result = .ok () →
    ch' = met.1.stopped ∧ ch'.status = .inactive ∧ ch'.preview = none
  kept : met.1.PreviewOver now → ∀ error, (met.1.cancelPreview met.2).result = .error error →
    ch' = { met.1 with status := .error, lastError := some error.message }
  left : ¬ met.1.CheckDue now → ¬ met.1.PreviewOver now → ch' = met.1

theorem tickChannel_due {now : Instant} {ch : Channel} (h : ch.CheckDue now) (c : Connection σ) :
    tickChannel now ch c =
      ({ checked := 1, unhealthy := if (ch.checkHealth c).1 = false then [ch.id] else [] },
        (ch.checkHealth c).2) := by
  have hid : (ch.checkHealth c).2.1.id = ch.id := (congrArg Channel.id (h.terms c) :)
  unfold tickChannel
  rw [if_pos ((ch.healthCheckDue_iff now).mpr h)]
  generalize ch.checkHealth c = passed at hid ⊢
  obtain ⟨_ | _, ch', c'⟩ := passed
  · exact congrArg (fun id => (({ checked := 1, unhealthy := [id] } : TickReport), ch', c')) hid
  · rfl

theorem tickChannel_over {now : Instant} {ch : Channel} (h : ch.PreviewOver now)
    (c : Connection σ) :
    tickChannel now ch c =
      ({ expired := if (ch.cancelPreview c).result.isOk = true then [ch.id] else [] },
        (ch.cancelPreview c).channel, (ch.cancelPreview c).connection) := by
  have hdue : ¬ ch.healthCheckDue now = true :=
    fun hdue => ((ch.healthCheckDue_iff now).mp hdue).not_over h
  have hid : (ch.cancelPreview c).channel.id = ch.id := (ch.cancelPreview_turn c).id_eq
  unfold tickChannel
  rw [if_neg hdue, if_pos ((ch.previewOver_iff now).mpr h)]
  generalize ch.cancelPreview c = cancelled at hid ⊢
  obtain ⟨_ | _, ch', c'⟩ := cancelled
  · rfl
  · exact congrArg (fun id => (({ expired := [id] } : TickReport), ch', c')) hid

theorem tickChannel_left {now : Instant} {ch : Channel} (hdue : ¬ ch.CheckDue now)
    (hover : ¬ ch.PreviewOver now) (c : Connection σ) : tickChannel now ch c = ({}, ch, c) := by
  unfold tickChannel
  rw [if_neg (mt (ch.healthCheckDue_iff now).mp hdue),
    if_neg (mt (ch.previewOver_iff now).mp hover)]

theorem tickChannel_report (now : Instant) (ch : Channel) (c : Connection σ) :
    (tickChannel now ch c).1 =
      { checked := if ch.CheckDue now then 1 else 0
        unhealthy := if ch.CheckDue now ∧ (ch.checkHealth c).1 = false then [ch.id] else []
        expired := if ch.PreviewOver now ∧ (ch.cancelPreview c).result.isOk = true then [ch.id]
          else [] } := by
  by_cases hdue : ch.CheckDue now
  · rw [tickChannel_due hdue]
    simp only [hdue, hdue.not_over, true_and, false_and, if_true, if_false]
  · by_cases hover : ch.PreviewOver now
    · rw [tickChannel_over hover]
      simp only [hdue, hover, true_and, false_and, if_false]
    · rw [tickChannel_left hdue hover]
      simp only [hdue, hover, false_and, if_false]

theorem tickChannel_connection (now : Instant) (ch : Channel) (c : Connection σ) :
    (tickChannel now ch c).2.2 = afterVisit now ch c := by
  unfold afterVisit
  split_ifs with hdue hover
  · rw [tickChannel_due hdue]
  · rw [tickChannel_over hover]
  · rw [tickChannel_left hdue hover]

theorem steady_later (now : Instant) : Steady fun c : Connection σ => now ≤ c.now where
  sleep := by
    intro c h d
    have hslept : (c.sleep d).now.nanos = c.now.nanos + d.nanos := rfl
    rw [Instant.le_def] at h ⊢
    omega
  perform := by
    intro c h request
    have hclock := c.perform_clock request
    rwa [Connection.now, hclock]

theorem afterVisit_steady {K : Connection σ → Prop} (S : Steady K) (now : Instant) (ch : Channel)
    {c : Connection σ} (h : K c) : K (afterVisit now ch c) := by
  unfold afterVisit
  split_ifs
  · exact Channel.Operation.checkHealth.run_steady S ch h
  · exact Channel.Operation.cancelPreview.run_steady S ch h
  · exact h

theorem tickChannel_ticked {now : Instant} (ch : Channel) {c : Connection σ} (h : now ≤ c.now) :
    Ticked now (ch, c) (tickChannel now ch c).2.1 := by
  by_cases hdue : ch.CheckDue now
  · have hterms := hdue.terms c
    have hstatus : (ch.checkHealth c).2.1.status = .active :=
      (congrArg Channel.status hterms).trans hdue.active
    have hlast : (ch.checkHealth c).2.1.lastCheck = some c.now :=
      congrArg Channel.lastCheck hterms
    rw [tickChannel_due hdue]
    exact ⟨fun _ => ⟨rfl, hstatus, c.now, hlast, h⟩, fun hover => (hdue.not_over hover).elim,
      fun hover => (hdue.not_over hover).elim, fun hnot => (hnot hdue).elim⟩
  · by_cases hover : ch.PreviewOver now
    · have hcases := ch.stopRemote_cases c
      rw [← hover.cancels c] at hcases
      rw [tickChannel_over hover]
      refine ⟨fun hdue' => (hdue hdue').elim, fun _ hok => ?_, fun _ error hr => ?_,
        fun _ hnot => (hnot hover).elim⟩
      · obtain ⟨error, _, hr, _⟩ | ⟨_, hch⟩ := hcases
        · cases hr.symm.trans hok
        · rw [hch]
          exact ⟨rfl, rfl, rfl⟩
      · obtain ⟨error', _, hr', hch⟩ | ⟨hok, _⟩ := hcases
        · obtain rfl := Except.error.inj (hr.symm.trans hr')
          exact hch
        · cases hok.symm.trans hr
    · rw [tickChannel_left hdue hover]
      exact ⟨fun hdue' => (hdue hdue').elim, fun hover' => (hover hover').elim,
        fun hover' => (hover hover').elim, fun _ _ => rfl⟩

/-! ### All channels -/

/-- The channels with the connections that a tick meets them with. -/
def tickVisits (now : Instant) : List Channel → Connection σ → List (Channel × Connection σ)
  | [], _ => []
  | ch :: rest, c => (ch, c) :: tickVisits now rest (afterVisit now ch c)

theorem map_tickVisits (now : Instant) (channels : List Channel) (c : Connection σ) :
    (tickVisits now channels c).map (·.1) = channels := by
  induction channels generalizing c with
  | nil => rfl
  | cons ch rest ih => rw [tickVisits, List.map_cons, ih]

theorem tickEach_report (now : Instant) (channels : List Channel) (c : Connection σ) :
    (tickEach now channels c).1 =
      { checked := channels.countP fun ch => ch.CheckDue now
        unhealthy := ((tickVisits now channels c).filter fun v =>
          v.1.CheckDue now ∧ (v.1.checkHealth v.2).1 = false).map (·.1.id)
        expired := ((tickVisits now channels c).filter fun v =>
          v.1.PreviewOver now ∧ (v.1.cancelPreview v.2).result.isOk = true).map (·.1.id) } := by
  induction channels generalizing c with
  | nil => rfl
  | cons ch rest ih =>
    simp only [tickEach, tickChannel_report, tickChannel_connection, ih, tickVisits,
      List.countP_cons, List.filter_cons, decide_eq_true_eq, Nat.add_comm]
    congr 1 <;> split_ifs <;> rfl

theorem tickVisits_steady {K : Connection σ → Prop} (S : Steady K) (now : Instant)
    (channels : List Channel) {c : Connection σ} (h : K c) :
    ∀ v ∈ tickVisits now channels c, K v.2 := by
  induction channels generalizing c with
  | nil => exact fun v hv => (List.not_mem_nil hv).elim
  | cons ch rest ih =>
    exact List.forall_mem_cons.mpr ⟨h, ih (afterVisit_steady S now ch h)⟩

theorem tickEach_channels (now : Instant) (channels : List Channel) (c : Connection σ) :
    (tickEach now channels c).2.1 =
      (tickVisits now channels c).map fun v => (tickChannel now v.1 v.2).2.1 := by
  induction channels generalizing c with
  | nil => rfl
  | cons ch rest ih => simp only [tickEach, tickVisits, List.map_cons, tickChannel_connection, ih]

theorem tickEach_ticked {now : Instant} (channels : List Channel) {c : Connection σ}
    (h : now ≤ c.now) :
    List.Forall₂ (Ticked now) (tickVisits now channels c) (tickEach now channels c).2.1 := by
  rw [tickEach_channels, List.forall₂_map_right_iff, List.forall₂_same]
  exact fun v hv =>
    tickChannel_ticked v.1 (tickVisits_steady (steady_later now) now channels h v hv)

/-- A tick reports how many channels were due for a pass, which of these turned out unhealthy, and
which previews that were over it took down, in the order of the channels. Of every channel it leaves
what its pass or its cancellation left, and it leaves the others as they were. -/
theorem tick_reports (s : Studio σ) :
    let now := s.connection.now
    let visits := tickVisits now s.channels s.connection
    visits.map (·.1) = s.channels ∧
      s.tick.1.checked = s.channels.countP (fun ch => ch.CheckDue now) ∧
      s.tick.1.unhealthy = (visits.filter fun v =>
        v.1.CheckDue now ∧ (v.1.checkHealth v.2).1 = false).map (·.1.id) ∧
      s.tick.1.expired = (visits.filter fun v =>
        v.1.PreviewOver now ∧ (v.1.cancelPreview v.2).result.isOk = true).map (·.1.id) ∧
      List.Forall₂ (Ticked now) visits s.tick.2.channels := by
  intro now visits
  have hreport : s.tick.1 = (tickEach now s.channels s.connection).1 := rfl
  rw [hreport, tickEach_report]
  exact ⟨map_tickVisits now s.channels s.connection, rfl, rfl, rfl,
    tickEach_ticked s.channels (Int.le_refl _)⟩

end Studio

end Simulcast
