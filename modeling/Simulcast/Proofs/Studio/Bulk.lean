import Simulcast.Proofs.Channel.Previewing
import Simulcast.Proofs.Studio.Runs

/-!
# Starting and stopping all channels

A bulk operation comes to one channel after the other, whatever became of those before. A start that
is asked of a channel at rest succeeds exactly when it leaves the channel on the air, and a stop
exactly when it leaves the channel inactive, so what is reported can be read off the statuses.
-/

namespace Simulcast

namespace Channel

theorem bulkResult_eq_ok {failed total : Nat} : bulkResult failed total = .ok () ↔ failed = 0 := by
  unfold bulkResult
  split_ifs with h <;> simp [h]

theorem bulkResult_eq_error {failed total : Nat} {error : ChannelError}
    (h : bulkResult failed total = .error error) : error = .bulk failed total := by
  unfold bulkResult at h
  split_ifs at h
  exact (Except.error.inj h).symm

variable {σ : Type} [Service σ]

theorem start_autoStart (ch : Channel) (c : Connection σ) :
    (ch.start c).channel.autoStart = ch.autoStart := by
  have hturn := ch.start_turn c
  generalize (ch.start c).channel = ch' at hturn ⊢
  cases hturn <;> rfl

theorem Settled.start_ok_iff {ch : Channel} (h : ch.Settled) (c : Connection σ) :
    (ch.start c).result = .ok () ↔ (ch.start c).channel.status = .active := by
  rcases h.stable with hs | hs | hs | hs
  · exact (start_active_iff (.inl hs) c).symm
  · simp [start, hs]
  · simp [start, hs]
  · exact (start_active_iff (.inr hs) c).symm

theorem Settled.stop_cases {ch : Channel} (h : ch.Settled) (c : Connection σ) :
    (∃ error, (ch.stop c).result = .error error ∧ (ch.stop c).channel.status = .error) ∨
      ((ch.stop c).result = .ok () ∧ (ch.stop c).channel.status = .inactive) := by
  have hdown (hstop : ch.Stoppable) :
      (∃ error, (ch.stop c).result = .error error ∧ (ch.stop c).channel.status = .error) ∨
        ((ch.stop c).result = .ok () ∧ (ch.stop c).channel.status = .inactive) := by
    rw [stop_eq_stopRemote hstop]
    obtain ⟨error, _, hr, hch⟩ | ⟨hr, hch⟩ := ch.stopRemote_cases c
    · exact .inl ⟨error, hr, by rw [hch]; rfl⟩
    · exact .inr ⟨hr, by rw [hch]; rfl⟩
  rcases h.stable with hs | hs | hs | hs
  · exact .inr (by simp [stop, hs])
  · exact hdown (.inl hs)
  · exact hdown (.inr (.inl hs))
  · exact hdown (.inr (.inr hs))

theorem Settled.stop_ok_iff {ch : Channel} (h : ch.Settled) (c : Connection σ) :
    (ch.stop c).result = .ok () ↔ (ch.stop c).channel.status = .inactive := by
  obtain ⟨error, hr, hs⟩ | ⟨hr, hs⟩ := h.stop_cases c <;> simp [hr, hs]

end Channel

namespace Studio

variable {σ : Type}

/-! ### One channel after the other -/

section OnEach

variable {asks : Channel → Bool} {operation : Channel → Connection σ → Channel.Outcome σ Unit}
  {channels : List Channel} {status : Status}

/-- The channels with the connections that a bulk operation meets them with. -/
def visits (asks : Channel → Bool) (operation : Channel → Connection σ → Channel.Outcome σ Unit) :
    List Channel → Connection σ → List (Channel × Connection σ)
  | [], _ => []
  | ch :: rest, c =>
    (ch, c) :: visits asks operation rest (if asks ch then (operation ch c).connection else c)

theorem map_visits (asks : Channel → Bool)
    (operation : Channel → Connection σ → Channel.Outcome σ Unit) (channels : List Channel)
    (c : Connection σ) : (visits asks operation channels c).map (·.1) = channels := by
  induction channels generalizing c with
  | nil => rfl
  | cons ch rest ih => rw [visits, List.map_cons, ih]

theorem onEach_channels (asks : Channel → Bool)
    (operation : Channel → Connection σ → Channel.Outcome σ Unit) (channels : List Channel)
    (c : Connection σ) :
    (onEach asks operation channels c).2.1 =
      (visits asks operation channels c).map fun v =>
        if asks v.1 then (operation v.1 v.2).channel else v.1 := by
  induction channels generalizing c with
  | nil => rfl
  | cons ch rest ih =>
    simp only [onEach, visits, List.map_cons]
    split_ifs
    · rw [ih]
    · rw [ih]

/-- Where a success shows in the status that a channel is left in, the failures are those of the
channels that asked and are in another. -/
theorem onEach_counts (hasks : ∀ ch c, asks (operation ch c).channel = asks ch)
    (hstatus : ∀ ch ∈ channels, ∀ c,
      (operation ch c).result = .ok () ↔ (operation ch c).channel.status = status)
    (c : Connection σ) :
    (onEach asks operation channels c).1 =
      (channels.countP asks,
        (onEach asks operation channels c).2.1.countP fun ch => asks ch ∧ ch.status ≠ status) := by
  induction channels generalizing c with
  | nil => rfl
  | cons ch rest ih =>
    obtain ⟨hch, hrest⟩ := List.forall_mem_cons.mp hstatus
    by_cases ha : asks ch = true
    · have hafter := (hasks ch c).trans ha
      have hlater := ih hrest (operation ch c).connection
      have hresult := hch c
      simp only [onEach, ha, if_true, hlater, List.countP_cons, hafter, decide_eq_true_eq, true_and]
      cases hr : (operation ch c).result with
      | ok _ =>
        rw [if_neg fun hother => hother (hresult.mp hr)]
        rfl
      | error error =>
        have hother : (operation ch c).channel.status ≠ status := fun hs => by
          cases hr.symm.trans (hresult.mpr hs)
        rw [if_pos hother]
    · have hlater := ih hrest c
      simp only [onEach, ha, hlater, List.countP_cons]
      simp [ha]

theorem bulk_result (hasks : ∀ ch c, asks (operation ch c).channel = asks ch) {s : Studio σ}
    (hstatus : ∀ ch ∈ s.channels, ∀ c,
      (operation ch c).result = .ok () ↔ (operation ch c).channel.status = status) :
    (s.bulk asks operation).result = Channel.bulkResult
      ((s.bulk asks operation).studio.channels.countP fun ch => asks ch ∧ ch.status ≠ status)
      (s.channels.countP asks) := by
  have hcounts := onEach_counts hasks hstatus s.connection
  unfold bulk
  generalize onEach asks operation s.channels s.connection = done at hcounts ⊢
  obtain ⟨⟨total, failed⟩, channels, c⟩ := done
  dsimp only at hcounts
  obtain ⟨rfl, rfl⟩ := Prod.mk.inj hcounts
  rfl

/-- The report of a bulk operation tells how many of the channels that asked are in another status
than the one they were to get to. -/
theorem bulk_report (hasks : ∀ ch c, asks (operation ch c).channel = asks ch) {s : Studio σ}
    (hstatus : ∀ ch ∈ s.channels, ∀ c,
      (operation ch c).result = .ok () ↔ (operation ch c).channel.status = status) :
    let outcome := s.bulk asks operation
    (outcome.result = .ok () ↔
        ∀ ch ∈ outcome.studio.channels, asks ch = true → ch.status = status) ∧
      ∀ error, outcome.result = .error error → error = .bulk
        (outcome.studio.channels.countP fun ch => asks ch ∧ ch.status ≠ status)
        (s.channels.countP asks) := by
  intro outcome
  have hresult : outcome.result = _ := bulk_result hasks hstatus
  rw [hresult]
  refine ⟨?_, fun error => Channel.bulkResult_eq_error⟩
  rw [Channel.bulkResult_eq_ok, List.countP_eq_zero]
  simp [outcome]

end OnEach

variable [Service σ]

theorem stopAll_channels (s : Studio σ) :
    s.stopAll.studio.channels =
      (visits (fun _ => true) Channel.stop s.channels s.connection).map fun v =>
        (v.1.stop v.2).channel :=
  onEach_channels (fun _ => true) Channel.stop s.channels s.connection

theorem Reachable.stopAll_settles {s : Studio σ} (h : Reachable s) :
    ∀ ch ∈ s.stopAll.studio.channels, ch.status = .inactive ∨ ch.status = .error := by
  intro ch hch
  rw [stopAll_channels] at hch
  obtain ⟨v, hv, rfl⟩ := List.mem_map.mp hch
  have hmem : v.1 ∈ s.channels := by
    rw [← map_visits (fun _ => true) Channel.stop s.channels s.connection]
    exact List.mem_map_of_mem hv
  obtain ⟨_, _, hs⟩ | ⟨_, hs⟩ := (h.channel v.1 hmem).settled.stop_cases v.2
  · exact .inr hs
  · exact .inl hs

/-- Starting all channels asks each that starts by itself, and leaves the others as they are. It
reports how many of those it asked are not on the air afterwards. Stopping all channels asks each,
leaves it inactive or in error, and reports how many are in error. -/
theorem bulk_reports_tell_statuses {s : Studio σ} (h : Reachable s) :
    let started := s.startAll
    let starts := visits (·.autoStart) Channel.start s.channels s.connection
    let stopped := s.stopAll
    let stops := visits (fun _ => true) Channel.stop s.channels s.connection
    (starts.map (·.1) = s.channels ∧
      started.studio.channels =
        starts.map (fun v => if v.1.autoStart then (v.1.start v.2).channel else v.1) ∧
      (started.result = .ok () ↔
        ∀ ch ∈ started.studio.channels, ch.autoStart = true → ch.status = .active) ∧
      ∀ error, started.result = .error error → error = .bulk
        (started.studio.channels.countP fun ch => ch.autoStart ∧ ch.status ≠ .active)
        (s.channels.countP (·.autoStart))) ∧
    stops.map (·.1) = s.channels ∧
      stopped.studio.channels = stops.map (fun v => (v.1.stop v.2).channel) ∧
      (∀ ch ∈ stopped.studio.channels, ch.status = .inactive ∨ ch.status = .error) ∧
      (stopped.result = .ok () ↔ ∀ ch ∈ stopped.studio.channels, ch.status = .inactive) ∧
      ∀ error, stopped.result = .error error → error = .bulk
        (stopped.studio.channels.countP fun ch => ch.status = .error) s.channels.length := by
  intro started starts stopped stops
  have hsettled (ch : Channel) (hch : ch ∈ s.channels) : ch.Settled := (h.channel ch hch).settled
  have hstarted := bulk_report Channel.start_autoStart
    fun ch hch c => (hsettled ch hch).start_ok_iff c
  obtain ⟨hok, herror⟩ := @bulk_report σ (fun _ => true) _ _ (fun _ _ => rfl) s
    fun ch hch c => (hsettled ch hch).stop_ok_iff c
  refine ⟨⟨map_visits .., onEach_channels .., hstarted⟩, map_visits .., s.stopAll_channels,
    h.stopAll_settles, ?_, fun error hr => ?_⟩
  · exact hok.trans (by simp [stopped, stopAll])
  · have hcount : (stopped.studio.channels.countP fun ch => true ∧ ch.status ≠ .inactive) =
        stopped.studio.channels.countP fun ch => ch.status = .error :=
      List.countP_congr fun ch hch => by
        rcases h.stopAll_settles ch hch with hs | hs <;> simp [hs]
    rw [← hcount]
    exact (herror error hr).trans (by simp [stopped, stopAll])

/-- A studio with a preview, a channel with an output, one without, and one that is not to start by
itself. -/
def rehearsal : Studio Simulated :=
  [.createChannel "preview" "", .onChannel "preview" (.setAutoStart true),
    .onChannel "preview" (.addOutput .custom "key" .auto {}),
    .onChannel "preview" (.startPreview (.ofSecs 60)),
    .createChannel "ready" "", .onChannel "ready" (.setAutoStart true),
    .onChannel "ready" (.addOutput .custom "key" .auto {}),
    .createChannel "bare" "", .onChannel "bare" (.setAutoStart true),
    .createChannel "manual" ""].foldl (fun s (op : Operation) => (op.run s).studio) opened

theorem bulk_reports_tell_statuses_rehearsal :
    rehearsal.startAll.studio.channels.map (·.status) = [.preview, .active, .error, .inactive] ∧
      rehearsal.startAll.result = .error (.bulk 2 3) ∧
      rehearsal.stopAll.result = .ok () ∧
      ∀ ch ∈ rehearsal.stopAll.studio.channels, ch.status = .inactive := by
  obtain ⟨⟨_, _, _, hstarted⟩, _, _, _, hstopped, _⟩ :=
    bulk_reports_tell_statuses (s := rehearsal) (.runs (.opened opened.connection) _)
  have hok : rehearsal.stopAll.result = .ok () := rfl
  have hfailed : rehearsal.startAll.result.isOk = false := by decide
  refine ⟨by decide, ?_, hok, hstopped.mp hok⟩
  cases hr : rehearsal.startAll.result with
  | ok _ =>
    rw [hr] at hfailed
    cases hfailed
  | error error => exact congrArg Except.error ((hstarted error hr).trans (by decide))

end Studio

end Simulcast
