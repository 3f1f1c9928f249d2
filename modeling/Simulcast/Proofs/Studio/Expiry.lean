import Simulcast.Proofs.Process.Granted
import Simulcast.Proofs.Process.Held
import Simulcast.Proofs.Run.Live
import Simulcast.Proofs.Studio.Ticking

/-!
# When a preview is over

The start of a preview, its duration and the present time are each cut to whole seconds before they
are compared. So a preview that began within a second may be taken to be over before it is, and one
that is shorter than a second never is. At all other times the comparison is exact.
-/

namespace Simulcast

/-- What has gone by of the second in which the instant lies. -/
def Instant.fraction (t : Instant) : Duration := ⟨t.nanos.toNat % 1000000000⟩

/-- At `t` the whole seconds tell wrongly whether a preview of this duration, begun at `t₀`, is
over. -/
def Misjudged (t₀ : Instant) (d : Duration) (t : Instant) : Prop :=
  if d.secs = 0 then d ≤ t.since t₀
  else .ofSecs d.secs ≤ t₀.fraction + t.since t₀ ∧ t.since t₀ < d

theorem Duration.nanos_add (a b : Duration) : (a + b).nanos = a.nanos + b.nanos := rfl

theorem le_unix_sub_iff {t₀ t : Instant} (hepoch : 0 ≤ t₀.nanos) (h : t₀ ≤ t) (n : Nat) :
    n ≤ t.unix - t₀.unix ↔ .ofSecs n ≤ t₀.fraction + t.since t₀ := by
  rw [Instant.le_def] at h
  rw [Duration.le_def, Duration.nanos_add]
  simp only [Instant.unix, Instant.fraction, Instant.since, Duration.ofSecs]
  omega

theorem misjudged_iff (t₀ : Instant) (d : Duration) (t : Instant) :
    ((d.secs ≠ 0 ∧ .ofSecs d.secs ≤ t₀.fraction + t.since t₀ ↔ d ≤ t.since t₀) ↔
      ¬ Misjudged t₀ d t) := by
  unfold Misjudged
  by_cases hzero : d.secs = 0
  · simp only [hzero, ne_eq, not_true_eq_false, false_and, false_iff, if_true]
  · have hreached : d ≤ t.since t₀ → .ofSecs d.secs ≤ t₀.fraction + t.since t₀ := by
      intro h
      simp only [Duration.le_def, Duration.nanos_add, Duration.ofSecs, Duration.secs] at h ⊢
      omega
    have hlater : t.since t₀ < d ↔ ¬ d ≤ t.since t₀ := by
      rw [Duration.lt_def, Duration.le_def, Nat.not_le]
    rw [if_neg hzero, hlater]
    tauto

theorem Instant.since_after (t : Instant) (d : Duration) : (t.after d).since t = d := by
  simp only [since, after]
  congr 1
  omega

theorem Instant.le_after (t : Instant) (d : Duration) : t ≤ t.after d := by
  have hafter : (t.after d).nanos = t.nanos + d.nanos := rfl
  rw [le_def]
  omega

/-- The whole seconds tell rightly at all times when start and duration are whole seconds, and only
then. -/
theorem never_misjudged_iff {t₀ : Instant} (hepoch : 0 ≤ t₀.nanos) {d : Duration}
    (hd : 0 < d.nanos) :
    (∀ t, t₀ ≤ t → ¬ Misjudged t₀ d t) ↔ t₀ = .ofUnix t₀.unix ∧ d = .ofSecs d.secs := by
  have hwhole : t₀ = .ofUnix t₀.unix ↔ t₀.fraction.nanos = 0 := by
    obtain ⟨n⟩ := t₀
    simp only [Instant.ofUnix, Instant.unix, Instant.fraction, Instant.mk.injEq] at hepoch ⊢
    omega
  have hfull : d = .ofSecs d.secs ↔ d.nanos ≤ d.secs * 1000000000 := by
    obtain ⟨n⟩ := d
    simp only [Duration.ofSecs, Duration.secs, Duration.mk.injEq]
    omega
  have hcut : d.secs * 1000000000 ≤ d.nanos := Nat.div_mul_le_self d.nanos 1000000000
  have hfraction : t₀.fraction.nanos < 1000000000 := Nat.mod_lt _ (by omega)
  rw [hwhole, hfull]
  constructor
  · intro h
    have hsecs : d.secs ≠ 0 := by
      intro hzero
      refine h (t₀.after d) (t₀.le_after d) ?_
      rw [Misjudged, if_pos hzero, Instant.since_after]
      exact Nat.le_refl _
    let early : Duration := ⟨d.secs * 1000000000 - t₀.fraction.nanos⟩
    have hearly := h (t₀.after early) (t₀.le_after early)
    rw [Misjudged, if_neg hsecs, Instant.since_after, Duration.le_def, Duration.lt_def,
      Duration.nanos_add] at hearly
    simp only [Duration.ofSecs, early] at hearly
    omega
  · rintro ⟨hstart, hduration⟩ t _
    unfold Misjudged
    split_ifs with hzero
    · omega
    · simp only [Duration.le_def, Duration.lt_def, Duration.nanos_add, Duration.ofSecs]
      omega

namespace Channel

variable {σ : Type} [Service σ]

theorem startPreview_shown {ch : Channel} {d : Duration} {c : Connection σ}
    (hr : (ch.startPreview d c).result = .ok ()) :
    (ch.startPreview d c).channel.status = .preview ∧
      (ch.startPreview d c).channel.preview = some ⟨d.secs, c.now.unix⟩ := by
  unfold startPreview at hr ⊢
  split_ifs at hr ⊢
  generalize ch.startRemote c = remote at hr ⊢
  obtain ⟨error | _, ch', c'⟩ := remote
  · cases hr
  · exact ⟨rfl, rfl⟩

theorem startPreview_timedOut_iff {ch : Channel} {d : Duration} {c : Connection σ} {t : Instant}
    (hepoch : 0 ≤ c.now.nanos) (hr : (ch.startPreview d c).result = .ok ()) (ht : c.now ≤ t) :
    (ch.startPreview d c).channel.previewTimedOut t = true ↔
      d.secs ≠ 0 ∧ .ofSecs d.secs ≤ c.now.fraction + t.since c.now := by
  obtain ⟨_, hpreview⟩ := startPreview_shown hr
  rw [previewTimedOut_iff, hpreview, ← le_unix_sub_iff hepoch ht]
  simp

theorem PreviewOver.cancel_granted {ch : Channel} {now : Instant} (h : ch.PreviewOver now)
    {c : Connection Simulated} (ha : Answering c) :
    (ch.cancelPreview c).result = .ok () ∧ (ch.cancelPreview c).channel = ch.stopped := by
  obtain ⟨error, hdown, _⟩ | hstopped := ch.stopRemote_cases c
  · cases hdown.symm.trans (ch.teardown_granted ha.authenticates).1
  · rwa [h.cancels c]

end Channel

namespace Studio

/-- A tick takes the preview of the channel down, and reports so. -/
def Cancels (s : Studio Simulated) (ch : Channel) : Prop :=
  ch.id ∈ s.tick.1.expired ∧
    ∃ ch' ∈ s.tick.2.channels, ch'.id = ch.id ∧ ch'.status = .inactive ∧ ch'.preview = none

theorem cancels_iff {s : Studio Simulated} (hids : (s.channels.map (·.id)).Nodup) {ch : Channel}
    (hch : ch ∈ s.channels) (ha : Answering s.connection) :
    s.Cancels ch ↔ ch.PreviewOver s.connection.now := by
  let visits := tickVisits s.connection.now s.channels s.connection
  have hvisits : visits.map (·.1) = s.channels :=
    map_tickVisits s.connection.now s.channels s.connection
  have hanswering : ∀ v ∈ visits, Answering v.2 :=
    tickVisits_steady answering_steady s.connection.now s.channels ha
  have hexpired : s.tick.1.expired = (visits.filter fun v =>
      v.1.PreviewOver s.connection.now ∧ (v.1.cancelPreview v.2).result.isOk = true).map (·.1.id) :=
    congrArg TickReport.expired (tickEach_report s.connection.now s.channels s.connection)
  constructor
  · rintro ⟨hmem, _⟩
    rw [hexpired] at hmem
    obtain ⟨v, hv, hid⟩ := List.mem_map.mp hmem
    obtain ⟨hv, hover⟩ := List.mem_filter.mp hv
    have hvch : v.1 ∈ s.channels := hvisits ▸ List.mem_map_of_mem hv
    obtain rfl : v.1 = ch := List.inj_on_of_nodup_map hids hvch hch hid
    exact (of_decide_eq_true hover).1
  · intro hover
    obtain ⟨v, hv, rfl⟩ : ∃ v ∈ visits, v.1 = ch := by
      rw [← List.mem_map, hvisits]
      exact hch
    obtain ⟨hok, hstopped⟩ := hover.cancel_granted (hanswering v hv)
    refine ⟨?_, v.1.stopped, ?_, rfl, rfl, rfl⟩
    · rw [hexpired]
      refine List.mem_map_of_mem (List.mem_filter.mpr ⟨hv, decide_eq_true ⟨hover, ?_⟩⟩)
      rw [hok]
      rfl
    · have hchannels : s.tick.2.channels =
          visits.map fun v => (tickChannel s.connection.now v.1 v.2).2.1 :=
        tickEach_channels s.connection.now s.channels s.connection
      rw [hchannels]
      refine List.mem_map.mpr ⟨v, hv, ?_⟩
      rw [tickChannel_over hover]
      exact hstopped

/-- A preview is reported to be over, and is taken down by a tick during which no call fails, just
when it has run for its whole duration; but not when the whole seconds misjudge that. They never do
exactly when it began at a whole second and lasts whole seconds. -/
theorem timeout_exact_iff {σ : Type} [Service σ] (ch : Channel) {d : Duration} {c : Connection σ}
    {t : Instant} (hepoch : 0 ≤ c.now.nanos) (hok : (ch.startPreview d c).result = .ok ())
    (ht : c.now ≤ t) :
    let shown := (ch.startPreview d c).channel
    ((shown.previewTimedOut t = true ↔ d ≤ t.since c.now) ↔ ¬ Misjudged c.now d t) ∧
      (∀ s : Studio Simulated, (s.channels.map (·.id)).Nodup → shown ∈ s.channels →
        s.connection.now = t → Answering s.connection →
          ((s.Cancels shown ↔ d ≤ t.since c.now) ↔ ¬ Misjudged c.now d t)) ∧
      (0 < d.nanos →
        ((∀ u, c.now ≤ u → (shown.previewTimedOut u = true ↔ d ≤ u.since c.now)) ↔
          c.now = .ofUnix c.now.unix ∧ d = .ofSecs d.secs)) := by
  intro shown
  have htimed : ∀ u, c.now ≤ u →
      ((shown.previewTimedOut u = true ↔ d ≤ u.since c.now) ↔ ¬ Misjudged c.now d u) := by
    intro u hu
    rw [Channel.startPreview_timedOut_iff hepoch hok hu]
    exact misjudged_iff c.now d u
  refine ⟨htimed t ht, fun s hids hshown hnow ha => ?_, fun hd => ?_⟩
  · have hover : shown.PreviewOver t ↔ shown.previewTimedOut t = true := by
      rw [← Channel.previewOver_iff]
      exact and_iff_right (.inl (Channel.startPreview_shown hok).1)
    rw [cancels_iff hids hshown ha, hnow, hover]
    exact htimed t ht
  · rw [← never_misjudged_iff hepoch hd]
    exact forall₂_congr htimed

def ready (t₀ : Instant) : Studio Simulated :=
  runAll [.operation (.createChannel "channel" ""),
    .operation (.onChannel "channel" (.addOutput .custom "key" .auto {}))]
    (fresh account ⟨t₀, .zero⟩ "user" "secret")

/-- A preview of the channel began at `t₀`, and nothing happened until `t`. -/
def shownUntil (t₀ : Instant) (d : Duration) (t : Instant) : Studio Simulated :=
  runAll [.operation (.onChannel "channel" (.startPreview d)), .setClock ⟨t, .zero⟩] (ready t₀)

theorem timeout_exact_iff_minute :
    let t₀ : Instant := .ofUnix 0
    let t : Instant := .ofUnix 60
    let d : Duration := .ofSecs 60
    let s := shownUntil t₀ d t
    ∃ ch ∈ (ready t₀).channels,
      let shown := (ch.startPreview d (ready t₀).connection).channel
      (ch.startPreview d (ready t₀).connection).result = .ok () ∧ ¬ Misjudged t₀ d t ∧
        (shown.previewTimedOut t = true ↔ d ≤ t.since t₀) ∧ shown ∈ s.channels ∧
        (s.Cancels shown ↔ d ≤ t.since t₀) ∧
        ∀ u, t₀ ≤ u → (shown.previewTimedOut u = true ↔ d ≤ u.since t₀) := by
  intro t₀ t d s
  have hall : ∀ ch ∈ (ready t₀).channels,
      (ch.startPreview d (ready t₀).connection).result = .ok () ∧
        (ch.startPreview d (ready t₀).connection).channel ∈ s.channels := by decide
  obtain ⟨ch, hch⟩ := List.exists_mem_of_ne_nil (ready t₀).channels (by decide)
  obtain ⟨hok, hshown⟩ := hall ch hch
  have hjudged : ¬ Misjudged t₀ d t := by
    unfold Misjudged
    decide
  have hnone : ∀ kind ∈ CallKind.all, s.connection.remote.failures kind = 0 := by decide
  have haccess : ∀ token ∈ s.connection.session.accessToken,
      token ∈ s.connection.remote.accessTokens := by decide
  have hrefresh : ∀ token ∈ s.connection.session.refreshToken,
      token ∈ s.connection.remote.refreshTokens := by decide
  have ha : Answering s.connection :=
    ⟨fun kind => hnone kind (by cases kind <;> decide), by decide, by decide, by decide, haccess,
      hrefresh, by decide⟩
  obtain ⟨htimed, hcancels, halways⟩ :=
    timeout_exact_iff ch (c := (ready t₀).connection) (t := t) (by decide) hok (by decide)
  exact ⟨ch, hch, hok, hjudged, htimed.mpr hjudged, hshown,
    (hcancels s (by decide) hshown rfl ha).mpr hjudged, (halways (by decide)).mpr (by decide)⟩

/-- A preview of one second is taken down after a tenth of it, when the next second of the clock
begins; and one of half a second is not taken down at all. -/
theorem previews_misjudged :
    let t₀ : Instant := ⟨900000000⟩
    let t : Instant := .ofUnix 1
    let s := shownUntil t₀ (.ofSecs 1) t
    let half : Duration := .ofMillis 500
    let s' := shownUntil t₀ half (.ofUnix 60)
    ¬ Duration.ofSecs 1 ≤ t.since t₀ ∧
      s.channels.map (fun ch => (ch.status, ch.previewTimedOut t)) = [(.preview, true)] ∧
      s.tick.1.expired = ["channel"] ∧ s.tick.2.channels.map (·.status) = [.inactive] ∧
      half ≤ (Instant.ofUnix 60).since t₀ ∧
      s'.channels.map (fun ch => (ch.status, ch.previewTimedOut (.ofUnix 60))) =
        [(.preview, false)] ∧
      s'.tick.1.expired = [] ∧ s'.tick.2.channels.map (·.status) = [.preview] := by
  decide

end Studio

end Simulcast
