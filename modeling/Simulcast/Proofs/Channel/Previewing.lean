import Simulcast.Proofs.Channel.Lifecycle

/-!
# From a preview onto the air

What starting and stopping come to, with the results they come with. A channel in a preview gets
onto the air by going live, and by a restart: that stops the preview and starts the channel again.
-/

namespace Simulcast.Channel

variable {σ : Type} [Service σ]

theorem stop_eq_stopRemote {ch : Channel} (h : ch.Stoppable) (c : Connection σ) :
    ch.stop c = ch.stopRemote c := by
  unfold stop
  rcases h with h | h | h <;> rw [h]

theorem start_cases {ch : Channel} (h : ch.Startable) (c : Connection σ) :
    (∃ error, (ch.start c).result = .error error ∧
        ((ch.start c).channel = ch.failed error ∨
          (ch.start c).channel = ch.unbound.failed error)) ∨
      ((ch.start c).result = .ok () ∧
        (ch.start c).channel = { ch.launched with status := .active }) := by
  have hcases := ch.startRemote_cases c
  unfold start
  generalize ch.startRemote c = outcome at hcases ⊢
  obtain ⟨result, ch', c'⟩ := outcome
  rcases h with h | h <;> rw [h] <;> rcases hcases with ⟨error, rfl, hch⟩ | ⟨rfl, rfl⟩
  · exact .inl ⟨error, rfl, hch⟩
  · exact .inr ⟨rfl, rfl⟩
  · exact .inl ⟨error, rfl, hch⟩
  · exact .inr ⟨rfl, rfl⟩

theorem startPreview_refused {ch : Channel} (h : ch.status ≠ .inactive) (duration : Duration)
    (c : Connection σ) : (ch.startPreview duration c).channel = ch := by
  unfold startPreview
  rw [if_neg h]

theorem start_active_iff {ch : Channel} (h : ch.Startable) (c : Connection σ) :
    (ch.start c).channel.status = .active ↔ (ch.start c).result = .ok () := by
  rcases start_cases h c with ⟨error, hr, hch | hch⟩ | ⟨hr, hch⟩
  · simp [hr, hch, failed, recordError]
  · simp [hr, hch, failed, recordError]
  · simp [hr, hch]

theorem restart_active_iff {ch : Channel} (h : ch.Stoppable) (c : Connection σ) :
    (ch.restart c).channel.status = .active ↔ (ch.restart c).result = .ok () := by
  have hstop := ch.stopRemote_cases c
  rw [← stop_eq_stopRemote h] at hstop
  unfold restart
  generalize ch.stop c = stopped at hstop ⊢
  obtain ⟨result, ch', c'⟩ := stopped
  rcases hstop with ⟨error, _, rfl, rfl⟩ | ⟨rfl, rfl⟩
  · simp [failed, recordError]
  · exact start_active_iff (.inl rfl) c'

theorem stopRemote_not_active (ch : Channel) (c : Connection σ) :
    (ch.stopRemote c).channel.status ≠ .active := by
  rcases ch.stopRemote_cases c with ⟨error, _, _, hch⟩ | ⟨_, hch⟩ <;> rw [hch] <;> exact nofun

/-- A channel in a preview is on the air after an operation exactly when that is the operation of
going live, or a restart that succeeds. -/
theorem Operation.run_active_iff (op : Operation) {ch : Channel} (hp : ch.status = .preview)
    (c : Connection σ) :
    (op.run ch c).channel.status = .active ↔
      op = .goLive ∨ (op = .restart ∧ (ch.restart c).result = .ok ()) := by
  by_cases hk : op.kind = .lifecycle
  · have hstop := stopRemote_not_active ch c
    have hrestart := restart_active_iff (.inr (.inl hp)) c
    cases op with
    | start => simp [Operation.run, Outcome.answering, Channel.start, hp]
    | stop =>
      rw [← stop_eq_stopRemote (.inr (.inl hp))] at hstop
      simpa [Operation.run, Outcome.answering] using hstop
    | restart => simpa [Operation.run, Outcome.answering] using hrestart
    | startPreview duration => simp [Operation.run, Outcome.answering, Channel.startPreview, hp]
    | goLive => simp [Operation.run, Outcome.edited, Outcome.changed, Channel.goLive, hp]
    | cancelPreview =>
      simpa [Operation.run, Outcome.answering, Channel.cancelPreview, hp] using hstop
    | _ => cases hk
  · have hstatus : (op.run ch c).channel.status = ch.status :=
      congrArg Standing.status (op.standing_run hk ch c)
    rw [hstatus, hp]
    refine iff_of_false nofun ?_
    rintro (rfl | ⟨rfl, _⟩) <;> exact hk rfl

end Simulcast.Channel
