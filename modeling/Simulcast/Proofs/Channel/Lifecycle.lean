import Simulcast.Proofs.Channel.Reachable

/-!
# The lifecycle of a channel

`Turn` lists what an operation of the lifecycle can make of a channel, with the statuses it may be
made of; a restart takes two turns. A turn keeps the id of the channel and its wiring.
-/

namespace Simulcast.Channel

/-- The channel after an operation that failed on the way. -/
def failed (ch : Channel) (error : ChannelError) : Channel :=
  { ch with status := .error }.recordError error

/-- The channel once a process that was left over is down. -/
def unbound (ch : Channel) : Channel := { ch with processReference := none }

def launched (ch : Channel) : Channel := { ch with status := .starting }.started ch.id

def Startable (ch : Channel) : Prop := ch.status = .inactive ∨ ch.status = .error

def Stoppable (ch : Channel) : Prop :=
  ch.status = .active ∨ ch.status = .preview ∨ ch.status = .error

/-- What an operation of the lifecycle can make of a channel. -/
inductive Turn (ch : Channel) : Channel → Prop where
  | unchanged : Turn ch ch
  | notStarted (error : ChannelError) (h : ch.Startable) : Turn ch (ch.failed error)
  | notLaunched (error : ChannelError) (h : ch.Startable) : Turn ch (ch.unbound.failed error)
  | active (h : ch.Startable) : Turn ch { ch.launched with status := .active }
  | notStopped (error : ChannelError) (h : ch.Stoppable) : Turn ch (ch.failed error)
  | stopped (h : ch.Stoppable) : Turn ch ch.stopped
  | notPreviewed (error : ChannelError) (h : ch.status = .inactive) :
      Turn ch { ch.failed error with preview := none }
  | notShown (error : ChannelError) (h : ch.status = .inactive) :
      Turn ch { ch.unbound.failed error with preview := none }
  | preview (p : Preview) (h : ch.status = .inactive) :
      Turn ch { ch.launched with preview := some p, status := .preview }
  | live (h : ch.status = .preview) :
      Turn ch { ch with preview := none, lastError := none, status := .active }

variable {σ : Type} [Service σ]

theorem launch_cases (ch : Channel) (c : Connection σ) :
    (∃ error, (ch.launch c).result = .error error ∧ (ch.launch c).channel = ch.failed error) ∨
      ((ch.launch c).result = .ok () ∧ (ch.launch c).channel = ch.started ch.id) := by
  unfold launch
  rcases c.perform (.createProcess ch.processConfig) with ⟨error | id, c₁⟩
  · exact .inl ⟨_, rfl, rfl⟩
  · simp only
    rcases c₁.perform (.command id .start) with ⟨error | _, c₂⟩
    · exact .inl ⟨_, rfl, rfl⟩
    · exact .inr ⟨rfl, rfl⟩

theorem startRemote_cases (ch : Channel) (c : Connection σ) :
    (∃ error, (ch.startRemote c).result = .error error ∧
        ((ch.startRemote c).channel = ch.failed error ∨
          (ch.startRemote c).channel = ch.unbound.failed error)) ∨
      ((ch.startRemote c).result = .ok () ∧ (ch.startRemote c).channel = ch.launched) := by
  unfold startRemote
  split_ifs
  · exact .inl ⟨_, rfl, .inl rfl⟩
  · exact .inl ⟨_, rfl, .inl rfl⟩
  · rcases ch.teardown c with ⟨error | _, c₁⟩
    · exact .inl ⟨_, rfl, .inl rfl⟩
    · rcases launch_cases { ch with processReference := none, status := .starting } c₁ with
        ⟨error, hr, hc⟩ | ⟨hr, hc⟩
      · exact .inl ⟨error, hr, .inr hc⟩
      · exact .inr ⟨hr, hc⟩

theorem start_turn (ch : Channel) (c : Connection σ) : ch.Turn (ch.start c).channel := by
  have hcases := ch.startRemote_cases c
  unfold start
  generalize ch.startRemote c = outcome at hcases ⊢
  obtain ⟨result, ch', c'⟩ := outcome
  have ready (h : ch.Startable) : (∃ error, result = .error error ∧ ch.Turn ch') ∨
      (result = .ok () ∧ ch.Turn { ch' with status := .active }) := by
    rcases hcases with ⟨error, hr, rfl | rfl⟩ | ⟨hr, rfl⟩
    · exact .inl ⟨error, hr, .notStarted error h⟩
    · exact .inl ⟨error, hr, .notLaunched error h⟩
    · exact .inr ⟨hr, .active h⟩
  cases hs : ch.status with
  | active | starting | preview | stopping => exact .unchanged
  | inactive => obtain ⟨error, rfl, ht⟩ | ⟨rfl, ht⟩ := ready (.inl hs) <;> exact ht
  | error => obtain ⟨error, rfl, ht⟩ | ⟨rfl, ht⟩ := ready (.inr hs) <;> exact ht

theorem stopRemote_cases (ch : Channel) (c : Connection σ) :
    (∃ error, (ch.teardown c).1 = .error error ∧ (ch.stopRemote c).result = .error error ∧
        (ch.stopRemote c).channel = ch.failed error) ∨
      ((ch.stopRemote c).result = .ok () ∧ (ch.stopRemote c).channel = ch.stopped) := by
  have hsame : ({ ch with status := .stopping } : Channel).teardown c = ch.teardown c := rfl
  simp only [stopRemote, hsame]
  rcases ch.teardown c with ⟨error | _, c'⟩
  · exact .inl ⟨error, rfl, rfl, rfl⟩
  · exact .inr ⟨rfl, rfl⟩

theorem stopRemote_turn {ch : Channel} (h : ch.Stoppable) (c : Connection σ) :
    ch.Turn (ch.stopRemote c).channel := by
  rcases ch.stopRemote_cases c with ⟨error, _, _, hch⟩ | ⟨_, hch⟩
  · rw [hch]
    exact .notStopped error h
  · rw [hch]
    exact .stopped h

theorem stop_turn (ch : Channel) (c : Connection σ) : ch.Turn (ch.stop c).channel := by
  unfold stop
  cases hs : ch.status with
  | inactive | starting | stopping => exact .unchanged
  | active => exact stopRemote_turn (.inl hs) c
  | preview => exact stopRemote_turn (.inr (.inl hs)) c
  | error => exact stopRemote_turn (.inr (.inr hs)) c

theorem startPreview_turn (ch : Channel) (duration : Duration) (c : Connection σ) :
    ch.Turn (ch.startPreview duration c).channel := by
  unfold startPreview
  split_ifs with h
  · have hcases := ch.startRemote_cases c
    generalize ch.startRemote c = outcome at hcases ⊢
    obtain ⟨result, ch', c'⟩ := outcome
    rcases hcases with ⟨error, rfl, rfl | rfl⟩ | ⟨rfl, rfl⟩
    · exact .notPreviewed error h
    · exact .notShown error h
    · exact .preview _ h
  · exact .unchanged

omit [Service σ] in
theorem goLive_turn (ch : Channel) (c : Connection σ) :
    ch.Turn (Outcome.edited ch ch.goLive c).channel := by
  unfold goLive
  split_ifs with h
  · exact .live h
  · exact .unchanged

theorem cancelPreview_turn (ch : Channel) (c : Connection σ) :
    ch.Turn (ch.cancelPreview c).channel := by
  unfold cancelPreview
  split_ifs with h
  · refine stopRemote_turn ?_ c
    rcases h with h | ⟨h, _⟩
    · exact .inr (.inl h)
    · exact .inr (.inr h)
  · exact .unchanged

theorem restart_turns (ch : Channel) (c : Connection σ) :
    ∃ mid, ch.Turn mid ∧ mid.Turn (ch.restart c).channel := by
  refine ⟨(ch.stop c).channel, ch.stop_turn c, ?_⟩
  unfold restart
  rcases ch.stop c with ⟨error | _, ch', c'⟩
  · exact .unchanged
  · exact ch'.start_turn c'

theorem Operation.run_of_turn {P : Channel → Prop} (hturn : ∀ {a b : Channel}, a.Turn b → P a → P b)
    {op : Operation} (hk : op.kind = .lifecycle) {ch : Channel} (h : P ch) (c : Connection σ) :
    P (op.run ch c).channel := by
  cases op with
  | start => exact hturn (ch.start_turn c) h
  | stop => exact hturn (ch.stop_turn c) h
  | restart =>
    obtain ⟨mid, hfirst, hsecond⟩ := ch.restart_turns c
    exact hturn hsecond (hturn hfirst h)
  | startPreview duration => exact hturn (ch.startPreview_turn duration c) h
  | goLive => exact hturn (ch.goLive_turn c) h
  | cancelPreview => exact hturn (ch.cancelPreview_turn c) h
  | _ => cases hk

theorem started_wiring (ch : Channel) (reference : String) :
    (ch.started reference).wiring = ch.wiring :=
  congrArg (Wiring.mk ch.nextOutput) (ends_map
    ({ · with connected := false, failures := 0, lastCheck := none }) (fun _ => rfl) ch.outputs)

theorem stopped_wiring (ch : Channel) : ch.stopped.wiring = ch.wiring :=
  congrArg (Wiring.mk ch.nextOutput)
    (ends_map ({ · with connected := false }) (fun _ => rfl) ch.outputs)

theorem Turn.wiring_eq {ch ch' : Channel} (h : ch.Turn ch') : ch'.wiring = ch.wiring := by
  cases h with
  | active h => exact started_wiring { ch with status := .starting } ch.id
  | preview p h => exact started_wiring { ch with status := .starting } ch.id
  | stopped h => exact ch.stopped_wiring
  | _ => rfl

theorem Turn.id_eq {ch ch' : Channel} (h : ch.Turn ch') : ch'.id = ch.id := by
  cases h <;> rfl

theorem Operation.id_run (op : Operation) (ch : Channel) (c : Connection σ) :
    (op.run ch c).channel.id = ch.id := by
  by_cases hk : op.kind = .lifecycle
  · exact op.run_of_turn (P := fun ch' => ch'.id = ch.id) (fun ht h => ht.id_eq.trans h) hk rfl c
  · exact congrArg Standing.id (op.standing_run hk ch c)

theorem stop_ok_inactive (ch : Channel) (c : Connection σ) (h : (ch.stop c).result = .ok ()) :
    (ch.stop c).channel.status = .inactive := by
  unfold stop at h ⊢
  cases hs : ch.status with
  | inactive => exact hs
  | active | preview | error =>
    simp only [hs] at h ⊢
    rcases ch.stopRemote_cases c with ⟨error, _, hr, _⟩ | ⟨_, hch⟩
    · cases hr.symm.trans h
    · rw [hch]
      rfl
  | starting | stopping =>
    rw [hs] at h
    cases h

end Simulcast.Channel
