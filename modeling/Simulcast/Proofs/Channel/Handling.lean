import Simulcast.Proofs.Channel.Lifecycle

/-!
# What the lifecycle does to the connection

Starting and stopping look the process of the channel up, stop and delete it, and create and start
another. A relation between connections that holds along each of these holds from before the
operation until after it.
-/

namespace Simulcast

variable {σ : Type} [Service σ]

/-- A relation that holds along all that is done about the processes under some references. `Known`
are the ids that were found under one of these, or given to a process created there. -/
structure Handling (references : String → Prop) (R : Connection σ → Connection σ → Prop)
    (Known : Connection σ → String → Prop) : Prop where
  refl : ∀ c, R c c
  trans : ∀ {a b c}, R a b → R b c → R a c
  find : ∀ c reference, references reference → R c (c.findProcess reference).connection
  found : ∀ (c : Connection σ) reference p, references reference →
    (c.findProcess reference).result = .ok (some p) →
      Known (c.findProcess reference).connection p.id
  create : ∀ c config, references config.reference →
    R c (c.perform (.createProcess config)).connection
  created : ∀ (c : Connection σ) config id, references config.reference →
    (c.perform (.createProcess config)).result = .ok id →
      Known (c.perform (.createProcess config)).connection id
  command : ∀ {c id} command, Known c id → R c (c.perform (.command id command)).connection
  commanded : ∀ {c id} command, Known c id → Known (c.perform (.command id command)).connection id
  delete : ∀ {c id}, Known c id → R c (c.perform (.deleteProcess id)).connection

namespace Channel

/-- The channel is about processes under these references only. -/
structure Concerns (ch : Channel) (references : String → Prop) : Prop where
  held : ∀ reference, ch.processReference = some reference → references reference
  own : references ch.id

variable {references : String → Prop} {R : Connection σ → Connection σ → Prop}
  {Known : Connection σ → String → Prop}

theorem Concerns.turn {ch ch' : Channel} (ht : ch.Turn ch') (h : ch.Concerns references) :
    ch'.Concerns references := by
  have own : ∀ reference, some ch.id = some reference → references reference := by
    rintro _ ⟨⟩
    exact h.own
  cases ht with
  | unchanged => exact h
  | notStarted | notStopped | notPreviewed | live => exact ⟨h.held, h.own⟩
  | notLaunched | notShown | stopped => exact ⟨nofun, h.own⟩
  | active | preview => exact ⟨own, h.own⟩

theorem teardown_handled (H : Handling references R Known) {ch : Channel}
    (hch : ch.Concerns references) (c : Connection σ) : R c (ch.teardown c).2 := by
  unfold teardown
  cases hp : ch.processReference with
  | none => exact H.refl c
  | some reference =>
    have href := hch.held reference hp
    have hfind := H.find c reference href
    have hfound := fun p => H.found c reference p href
    simp only
    generalize c.findProcess reference = found at hfind hfound ⊢
    obtain ⟨error | (_ | process), c₁⟩ := found
    · exact hfind
    · exact hfind
    · have hk : Known c₁ process.id := hfound process rfl
      have hstop := H.command .stop hk
      have hstopped := H.commanded .stop hk
      simp only
      generalize c₁.perform (.command process.id .stop) = stopped at hstop hstopped ⊢
      obtain ⟨error | _, c₂⟩ := stopped
      · exact H.trans hfind hstop
      · exact H.trans hfind (H.trans hstop (H.delete hstopped))

theorem launch_handled (H : Handling references R Known) {ch : Channel} (hid : references ch.id)
    (c : Connection σ) : R c (ch.launch c).connection := by
  have hcreate := H.create c ch.processConfig hid
  have hcreated := fun id => H.created c ch.processConfig id hid
  unfold launch
  generalize c.perform (.createProcess ch.processConfig) = created at hcreate hcreated ⊢
  obtain ⟨error | id, c₁⟩ := created
  · exact hcreate
  · have hk : Known c₁ id := hcreated id rfl
    have hstart := H.command .start hk
    have hstarted := H.commanded .start hk
    simp only
    generalize c₁.perform (.command id .start) = started at hstart hstarted ⊢
    obtain ⟨error | _, c₂⟩ := started
    · exact H.trans hcreate (H.trans hstart (H.delete hstarted))
    · exact H.trans hcreate hstart

theorem startRemote_handled (H : Handling references R Known) {ch : Channel}
    (hch : ch.Concerns references) (c : Connection σ) : R c (ch.startRemote c).connection := by
  have hdown := teardown_handled H hch c
  unfold startRemote
  split_ifs
  · exact H.refl c
  · exact H.refl c
  · generalize ch.teardown c = down at hdown ⊢
    obtain ⟨error | _, c'⟩ := down
    · exact hdown
    · refine H.trans hdown (launch_handled H ?_ c')
      exact hch.own

theorem start_handled (H : Handling references R Known) {ch : Channel}
    (hch : ch.Concerns references) (c : Connection σ) : R c (ch.start c).connection := by
  have hremote := startRemote_handled H hch c
  unfold start
  cases ch.status with
  | active | starting | preview | stopping => exact H.refl c
  | inactive | error =>
    simp only
    generalize ch.startRemote c = outcome at hremote ⊢
    obtain ⟨error | _, ch', c'⟩ := outcome <;> exact hremote

theorem stopRemote_handled (H : Handling references R Known) {ch : Channel}
    (hch : ch.Concerns references) (c : Connection σ) : R c (ch.stopRemote c).connection := by
  have hstopping : ({ ch with status := .stopping } : Channel).Concerns references :=
    ⟨hch.held, hch.own⟩
  have hdown := teardown_handled H hstopping c
  simp only [stopRemote]
  generalize ({ ch with status := .stopping } : Channel).teardown c = down at hdown ⊢
  obtain ⟨error | _, c'⟩ := down <;> exact hdown

theorem stop_handled (H : Handling references R Known) {ch : Channel}
    (hch : ch.Concerns references) (c : Connection σ) : R c (ch.stop c).connection := by
  unfold stop
  cases ch.status with
  | inactive | starting | stopping => exact H.refl c
  | active | preview | error => exact stopRemote_handled H hch c

theorem restart_handled (H : Handling references R Known) {ch : Channel}
    (hch : ch.Concerns references) (c : Connection σ) : R c (ch.restart c).connection := by
  have hstop := stop_handled H hch c
  have hleft := hch.turn (ch.stop_turn c)
  unfold restart
  generalize ch.stop c = stopped at hstop hleft ⊢
  obtain ⟨error | _, ch', c'⟩ := stopped
  · exact hstop
  · exact H.trans hstop (start_handled H hleft c')

theorem startPreview_handled (H : Handling references R Known) {ch : Channel}
    (hch : ch.Concerns references) (duration : Duration) (c : Connection σ) :
    R c (ch.startPreview duration c).connection := by
  have hremote := startRemote_handled H hch c
  simp only [startPreview]
  split_ifs
  · generalize ch.startRemote c = outcome at hremote ⊢
    obtain ⟨error | _, ch', c'⟩ := outcome <;> exact hremote
  · exact H.refl c

/-- What holds along each of the requests of the lifecycle holds along its operations. -/
theorem Operation.run_handled (H : Handling references R Known) {ch : Channel}
    (hch : ch.Concerns references) {op : Operation} (hk : op.kind = .lifecycle)
    (c : Connection σ) : R c (op.run ch c).connection := by
  cases op with
  | start => exact start_handled H hch c
  | stop => exact stop_handled H hch c
  | restart => exact restart_handled H hch c
  | startPreview duration => exact startPreview_handled H hch duration c
  | goLive =>
    simp only [Operation.run, Outcome.edited]
    cases ch.goLive <;> exact H.refl c
  | cancelPreview =>
    simp only [Operation.run, Outcome.answering, Channel.cancelPreview]
    split_ifs
    · exact stopRemote_handled H hch c
    · exact H.refl c
  | _ => cases hk

end Channel

end Simulcast
