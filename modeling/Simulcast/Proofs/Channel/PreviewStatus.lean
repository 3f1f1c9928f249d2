import Mathlib.Tactic.ByContra
import Simulcast.Proofs.Channel.Previewing
import Simulcast.Proofs.Studio.Runs

/-!
# Previews and the status

A channel in a preview has a preview, and one that has a preview is in it, or in the error of a
failed attempt to leave it. One operation breaks this: a start goes ahead from that error and takes
the preview along onto the air.
-/

namespace Simulcast.Channel

variable {σ : Type} [Service σ]

/-- The preview of a channel goes with its status. -/
structure PreviewAgrees (ch : Channel) : Prop where
  shown : ch.status = .preview → ch.isPreviewing
  held : ch.isPreviewing → ch.status = .preview ∨ ch.status = .error
  cleared : ¬ ch.isPreviewing → ch.previewSecs = 0 ∧ ch.previewStart = 0

/-- The channel has a preview and is not in it. -/
def HeldBack (ch : Channel) : Prop := ch.isPreviewing ∧ ch.status ≠ .preview

/-- The operation cannot take the process of a preview down. -/
def Operation.holdsBack (op : Operation) (ch : Channel) (c : Connection σ) : Prop :=
  ch.status = .preview ∧ (op = .stop ∨ op = .restart ∨ op = .cancelPreview) ∧
    ∃ error, (ch.teardown c).1 = .error error

/-- The operation starts a channel that has a preview it could not leave. -/
def Operation.revives (op : Operation) (ch : Channel) (c : Connection σ) : Prop :=
  op = .start ∧ ch.status = .error ∧ ch.isPreviewing ∧ (ch.start c).result = .ok ()

theorem cleared_of_none {ch : Channel} (h : ¬ ch.isPreviewing) :
    ch.previewSecs = 0 ∧ ch.previewStart = 0 := by
  have hnone : ch.preview = none := by simpa [isPreviewing] using h
  simp [previewSecs, previewStart, hnone]

theorem PreviewAgrees.of_standing {ch ch' : Channel} (h : ch.PreviewAgrees)
    (hs : ch'.standing = ch.standing) : ch'.PreviewAgrees := by
  have hstatus : ch'.status = ch.status := congrArg Standing.status hs
  have hpreview : ch'.isPreviewing = ch.isPreviewing :=
    congrArg (fun s => s.preview.isSome) hs
  refine ⟨fun hp => ?_, fun hp => ?_, cleared_of_none⟩
  · exact hpreview ▸ h.shown (hstatus ▸ hp)
  · exact hstatus ▸ h.held (hpreview ▸ hp)

theorem agrees_of_none {ch : Channel} (hpreview : ch.preview = none) (hs : ch.status ≠ .preview) :
    ch.PreviewAgrees :=
  ⟨fun h => (hs h).elim, fun h => by simp [isPreviewing, hpreview] at h, cleared_of_none⟩

/-- A turn keeps a preview that goes with the status, unless it takes one from the error onto the
air. -/
theorem PreviewAgrees.turn {ch ch' : Channel} (h : ch.PreviewAgrees) (ht : ch.Turn ch')
    (hair : ch'.status = .active → ch.status = .error → ¬ ch.isPreviewing) :
    ch'.PreviewAgrees := by
  cases ht with
  | unchanged => exact h
  | notStarted _ _ | notLaunched _ _ | notStopped _ _ =>
    exact ⟨nofun, fun _ => .inr rfl, cleared_of_none⟩
  | notPreviewed _ _ | notShown _ _ | stopped _ | live _ => exact agrees_of_none rfl nofun
  | preview p _ => exact ⟨fun _ => rfl, fun _ => .inl rfl, cleared_of_none⟩
  | active hs =>
    have hnone : ¬ ch.isPreviewing := by
      intro hp
      rcases hs with hs | hs
      · rcases h.held hp with hs' | hs' <;> rw [hs] at hs' <;> cases hs'
      · exact hair rfl hs hp
    exact ⟨nofun, fun hp => (hnone hp).elim, cleared_of_none⟩

theorem agrees_start_iff {ch : Channel} (h : ch.PreviewAgrees) (c : Connection σ) :
    (ch.start c).channel.PreviewAgrees ↔ ¬ Operation.start.revives ch c := by
  constructor
  · rintro hagrees ⟨_, hs, hp, hok⟩
    rcases start_cases (.inr hs) c with ⟨error, hr, _⟩ | ⟨_, hch⟩
    · cases hr.symm.trans hok
    · rw [hch] at hagrees
      rcases hagrees.held hp with hs' | hs' <;> cases hs'
  · intro hnot
    refine h.turn (ch.start_turn c) fun hactive hs hp => hnot ⟨rfl, hs, hp, ?_⟩
    exact (start_active_iff (.inr hs) c).mp hactive

theorem stop_not_active {ch : Channel} (hs : ch.status = .error) (c : Connection σ) :
    (ch.stop c).channel.status ≠ .active := by
  rw [stop_eq_stopRemote (.inr (.inr hs))]
  exact ch.stopRemote_not_active c

theorem agrees_stop {ch : Channel} (h : ch.PreviewAgrees) (c : Connection σ) :
    (ch.stop c).channel.PreviewAgrees :=
  h.turn (ch.stop_turn c) fun hactive hs _ => stop_not_active hs c hactive

/-- A restart starts from where the stop succeeded, and a preview is over there. -/
theorem agrees_restart {ch : Channel} (h : ch.PreviewAgrees) (c : Connection σ) :
    (ch.restart c).channel.PreviewAgrees := by
  have hstop := agrees_stop h c
  have hidle := ch.stop_ok_inactive c
  unfold restart
  generalize ch.stop c = stopped at hstop hidle ⊢
  obtain ⟨error | _, ch', c'⟩ := stopped
  · exact hstop
  · refine hstop.turn (ch'.start_turn c') fun _ hs => ?_
    cases hs.symm.trans (hidle rfl)

/-- After an operation the preview goes with the status, unless it was a start that took the preview
along. -/
theorem Operation.agrees_run_iff (op : Operation) {ch : Channel} (h : ch.PreviewAgrees)
    (c : Connection σ) : (op.run ch c).channel.PreviewAgrees ↔ ¬ op.revives ch c := by
  by_cases hstart : op = .start
  · subst hstart
    exact agrees_start_iff h c
  · refine iff_of_true ?_ fun hr => hstart hr.1
    by_cases hk : op.kind = .lifecycle
    · cases op with
      | start => exact (hstart rfl).elim
      | stop => exact agrees_stop h c
      | restart => exact agrees_restart h c
      | startPreview duration =>
        refine h.turn (ch.startPreview_turn duration c) fun hactive hs => ?_
        have hsame := startPreview_refused (by rw [hs]; exact nofun) duration c
        exact absurd (hsame ▸ hactive) (by rw [hs]; exact nofun)
      | goLive =>
        refine h.turn (ch.goLive_turn c) fun hactive hs => ?_
        have hsame : (Outcome.edited ch ch.goLive c).channel = ch := by
          unfold Channel.goLive
          rw [hs, if_neg nofun]
          rfl
        exact absurd (hsame ▸ hactive) (by rw [hs]; exact nofun)
      | cancelPreview =>
        refine h.turn (ch.cancelPreview_turn c) fun hactive hs hp => ?_
        have hstop : ch.cancelPreview c = ch.stopRemote c := if_pos (.inr ⟨hs, hp⟩)
        exact ch.stopRemote_not_active c (hstop ▸ hactive)
      | _ => cases hk
    · exact h.of_standing (op.standing_run hk ch c)

theorem Turn.heldBack {ch ch' : Channel} (ht : ch.Turn ch') (h : ¬ ch.HeldBack)
    (h' : ch'.HeldBack) : ch.status = .preview := by
  by_contra hs
  have hnone : ¬ ch.isPreviewing := fun hp => h ⟨hp, hs⟩
  cases ht with
  | unchanged => exact h h'
  | notStarted _ _ | notLaunched _ _ | notStopped _ _ | active _ => exact hnone h'.1
  | notPreviewed _ _ | notShown _ _ | stopped _ | live _ => exact absurd h'.1 nofun
  | preview p _ => exact h'.2 rfl

theorem stopRemote_heldBack {ch : Channel} {c : Connection σ}
    (h : (ch.stopRemote c).channel.HeldBack) : ∃ error, (ch.teardown c).1 = .error error := by
  rcases ch.stopRemote_cases c with ⟨error, hdown, _⟩ | ⟨_, hch⟩
  · exact ⟨error, hdown⟩
  · rw [hch] at h
    exact absurd h.1 nofun

theorem stop_heldBack {ch : Channel} {c : Connection σ} (h : ¬ ch.HeldBack)
    (h' : (ch.stop c).channel.HeldBack) :
    ch.status = .preview ∧ ∃ error, (ch.teardown c).1 = .error error := by
  have hp := (ch.stop_turn c).heldBack h h'
  rw [stop_eq_stopRemote (.inr (.inl hp))] at h'
  exact ⟨hp, stopRemote_heldBack h'⟩

theorem restart_heldBack {ch : Channel} {c : Connection σ} (h : ¬ ch.HeldBack)
    (h' : (ch.restart c).channel.HeldBack) :
    ch.status = .preview ∧ ∃ error, (ch.teardown c).1 = .error error := by
  have hstop := stop_heldBack (c := c) h
  have hidle := ch.stop_ok_inactive c
  unfold restart at h'
  generalize ch.stop c = stopped at hstop hidle h'
  obtain ⟨error | _, ch', c'⟩ := stopped
  · exact hstop h'
  · by_cases hmid : ch'.HeldBack
    · exact hstop hmid
    · cases ((ch'.start_turn c').heldBack hmid h').symm.trans (hidle rfl)

theorem Operation.holdsBack_of_run {op : Operation} {ch : Channel} {c : Connection σ}
    (h : ¬ ch.HeldBack) (h' : (op.run ch c).channel.HeldBack) : op.holdsBack ch c := by
  by_cases hk : op.kind = .lifecycle
  · cases op with
    | start =>
      have hp := (ch.start_turn c).heldBack h h'
      have hsame : (ch.start c).channel = ch := by
        unfold Channel.start
        rw [hp]
      exact (h (hsame ▸ h')).elim
    | stop =>
      obtain ⟨hp, hdown⟩ := stop_heldBack h h'
      exact ⟨hp, .inl rfl, hdown⟩
    | restart =>
      obtain ⟨hp, hdown⟩ := restart_heldBack h h'
      exact ⟨hp, .inr (.inl rfl), hdown⟩
    | startPreview duration =>
      have hp := (ch.startPreview_turn duration c).heldBack h h'
      have hsame := startPreview_refused (by rw [hp]; exact nofun) duration c
      exact (h (hsame ▸ h')).elim
    | goLive =>
      have hp := (ch.goLive_turn c).heldBack h h'
      have hlive : (Outcome.edited ch ch.goLive c).channel.preview = none := by
        unfold Channel.goLive
        rw [if_pos hp]
        rfl
      simp [Operation.run, HeldBack, isPreviewing, hlive] at h'
    | cancelPreview =>
      have hp := (ch.cancelPreview_turn c).heldBack h h'
      have hstop : ch.cancelPreview c = ch.stopRemote c := if_pos (.inl hp)
      exact ⟨hp, .inr (.inr rfl), stopRemote_heldBack (hstop ▸ h')⟩
    | _ => cases hk
  · have hs := op.standing_run hk ch c
    have hstatus : (op.run ch c).channel.status = ch.status := congrArg Standing.status hs
    have hpreview : (op.run ch c).channel.isPreviewing = ch.isPreviewing :=
      congrArg (fun s => s.preview.isSome) hs
    exact (h ⟨hpreview ▸ h'.1, hstatus ▸ h'.2⟩).elim

/-! ### Runs -/

/-- The channel before a run, between two of its operations and after it. Each operation comes with
the connection it meets. -/
def visited (ch : Channel) : List (Operation × Connection σ) → List Channel
  | [] => [ch]
  | (op, c) :: rest => ch :: visited (op.run ch c).channel rest

def after (ch : Channel) : List (Operation × Connection σ) → Channel
  | [] => ch
  | (op, c) :: rest => after (op.run ch c).channel rest

def Meets (sort : Operation → Channel → Connection σ → Prop) (ch : Channel) :
    List (Operation × Connection σ) → Prop
  | [] => False
  | (op, c) :: rest => sort op ch c ∨ Meets sort (op.run ch c).channel rest

theorem mem_visited (ch : Channel) (steps : List (Operation × Connection σ)) :
    ch ∈ ch.visited steps := by
  cases steps <;> exact List.mem_cons_self

theorem agrees_visited_iff {ch : Channel} (h : ch.PreviewAgrees)
    (steps : List (Operation × Connection σ)) :
    (∀ x ∈ ch.visited steps, x.PreviewAgrees) ↔ ¬ ch.Meets Operation.revives steps := by
  induction steps generalizing ch with
  | nil => exact iff_of_true (List.forall_mem_singleton.mpr h) not_false
  | cons step rest ih =>
    obtain ⟨op, c⟩ := step
    simp only [visited, Meets, List.forall_mem_cons, not_or]
    constructor
    · rintro ⟨_, hrest⟩
      have hnext := hrest _ (mem_visited _ rest)
      exact ⟨(op.agrees_run_iff h c).mp hnext, (ih hnext).mp hrest⟩
    · rintro ⟨hfirst, hrest⟩
      exact ⟨h, (ih ((op.agrees_run_iff h c).mpr hfirst)).mpr hrest⟩

theorem meets_holdsBack {ch : Channel} (h : ¬ ch.HeldBack)
    {steps : List (Operation × Connection σ)} (h' : (ch.after steps).HeldBack) :
    ch.Meets Operation.holdsBack steps := by
  induction steps generalizing ch with
  | nil => exact h h'
  | cons step rest ih =>
    obtain ⟨op, c⟩ := step
    by_cases hnext : (op.run ch c).channel.HeldBack
    · exact .inl (op.holdsBack_of_run h hnext)
    · exact .inr (ih hnext h')

/-- From a channel that is new or a copy, the preview goes with the status all along a run exactly
when no operation of the run starts the channel with a preview it could not leave. A channel has a
preview without being in it only after the process of a preview could not be taken down. -/
theorem preview_agrees_iff_not_revived {ch : Channel} (hs : ch.status = .inactive)
    (hp : ch.preview = none) (steps : List (Operation × Connection σ)) :
    ((∀ x ∈ ch.visited steps, (x.status = .preview → x.isPreviewing) ∧
        (x.isPreviewing → x.status = .preview ∨ x.status = .error) ∧
        (¬ x.isPreviewing → x.previewSecs = 0 ∧ x.previewStart = 0)) ↔
      ¬ ch.Meets Operation.revives steps) ∧
    ((ch.after steps).isPreviewing → (ch.after steps).status ≠ .preview →
      ch.Meets Operation.holdsBack steps) := by
  have hagrees : ch.PreviewAgrees := agrees_of_none hp (by rw [hs]; exact nofun)
  constructor
  · rw [← agrees_visited_iff hagrees]
    exact forall₂_congr fun x _ =>
      ⟨fun ⟨hshown, hheld, hcleared⟩ => ⟨hshown, hheld, hcleared⟩,
        fun h => ⟨h.shown, h.held, h.cleared⟩⟩
  · intro hpreviewing hstatus
    refine meets_holdsBack (fun hback => ?_) ⟨hpreviewing, hstatus⟩
    have hsome : ch.preview.isSome := hback.1
    rw [hp] at hsome
    cases hsome

/-! ### A preview that is taken along -/

def ready : Channel :=
  (({ id := "channel", name := "" } : Channel).addOutput .custom "key" .auto {}).2

def revival : List (Operation × Connection Simulated) :=
  let begun := (Operation.startPreview (.ofSecs 60)).run ready Studio.opened.connection
  let deaf := { begun.connection with remote := begun.connection.remote.failNext .listProcesses 1 }
  let kept := Operation.cancelPreview.run begun.channel deaf
  [(.startPreview (.ofSecs 60), Studio.opened.connection), (.cancelPreview, deaf),
    (.start, kept.connection)]

theorem ready_reachable : Reachable Simulated ready :=
  .run (.addOutput .custom "key" .auto {}) Studio.opened.connection (.new "channel" "")

/-- The channel is on the air, and its preview fields still say that it is in a preview. -/
theorem revived_channel_is_previewing :
    Reachable Simulated (ready.after revival) ∧
      (ready.visited revival).map (fun x => (x.status, x.isPreviewing, x.previewSecs)) =
        [(.inactive, false, 0), (.preview, true, 60), (.error, true, 60), (.active, true, 60)] :=
  ⟨.run _ _ (.run _ _ (.run _ _ ready_reachable)), by decide⟩

theorem preview_agrees_iff_not_revived_cancelled :
    (ready.status = .inactive ∧ ready.preview = none) ∧
    ((∀ x ∈ ready.visited (revival.take 2), (x.status = .preview → x.isPreviewing) ∧
        (x.isPreviewing → x.status = .preview ∨ x.status = .error) ∧
        (¬ x.isPreviewing → x.previewSecs = 0 ∧ x.previewStart = 0)) ↔
      ¬ ready.Meets Operation.revives (revival.take 2)) ∧
    ((ready.after (revival.take 2)).isPreviewing →
      (ready.after (revival.take 2)).status ≠ .preview →
        ready.Meets Operation.holdsBack (revival.take 2)) :=
  ⟨⟨rfl, rfl⟩, preview_agrees_iff_not_revived rfl rfl (revival.take 2)⟩

end Simulcast.Channel
