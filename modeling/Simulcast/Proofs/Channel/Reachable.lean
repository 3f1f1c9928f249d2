import Simulcast.Proofs.Channel.Monitoring

/-!
# Reachable channels

A channel is reachable when it came about from a new channel by operations and copying. Each
operation may meet any connection, so nothing is assumed about what the service answers, about the
tokens or about the clock.
-/

namespace Simulcast

def Connection.fresh {σ : Type} (settings : Settings) (clock : Clock) (remote : σ) :
    Connection σ where
  session := { settings }
  clock := clock
  remote := remote

namespace Channel

variable (σ : Type) [Service σ]

inductive Reachable : Channel → Prop where
  | new (id name : String) : Reachable { id, name }
  | duplicate {ch : Channel} (id name : String) : Reachable ch → Reachable (ch.duplicate id name)
  | run {ch : Channel} (op : Operation) (c : Connection σ) :
      Reachable ch → Reachable (op.run ch c).channel

variable {σ}

theorem Reachable.runs {ch : Channel} (h : Reachable σ ch) (ops : List Operation)
    (c : Connection σ) : Reachable σ (ops.foldl (fun ch op => (op.run ch c).channel) ch) := by
  induction ops generalizing ch with
  | nil => exact h
  | cons op rest ih => exact ih (.run op c h)

/-- What an operation is about. -/
inductive Operation.Kind where
  /-- Settings of the channel and its outputs, and what the process pushes. -/
  | tending
  /-- Which outputs there are and how they are linked. -/
  | wiring
  /-- Whether there is a process and in which role. -/
  | lifecycle
  deriving DecidableEq

def Operation.kind : Operation → Kind
  | .addOutput .. | .removeOutput _ | .setOutputBackup .. | .removeOutputBackup _
  | .bulkRemoveOutputs _ => .wiring
  | .start | .stop | .restart | .startPreview _ | .goLive | .cancelPreview => .lifecycle
  | _ => .tending

omit [Service σ] in
theorem skeleton_edited {ch : Channel} {edit : Except ChannelError Channel}
    (h : ∀ ch', edit = .ok ch' → ch'.skeleton = ch.skeleton) (c : Connection σ) :
    (Outcome.edited ch edit c).channel.skeleton = ch.skeleton ∧
      (Outcome.edited ch edit c).connection = c := by
  cases edit with
  | ok ch' => exact ⟨h ch' rfl, rfl⟩
  | error e => exact ⟨rfl, rfl⟩

/-- An operation that only tends to what is there keeps the skeleton of the channel, and with it
every relation between connections that tending keeps. -/
theorem Operation.run_tended {reference : String} {R : Connection σ → Connection σ → Prop}
    {Known : Connection σ → String → Prop} (T : Tending reference R Known) {ch : Channel}
    (hr : ch.RefersTo reference) {op : Operation} (hk : op.kind = .tending) (c : Connection σ) :
    (op.run ch c).channel.skeleton = ch.skeleton ∧ R c (op.run ch c).connection := by
  have quiet : ∀ o : Outcome σ Answer, o.channel.skeleton = ch.skeleton ∧ o.connection = c →
      o.channel.skeleton = ch.skeleton ∧ R c o.connection := by
    rintro o ⟨hs, hc⟩
    exact ⟨hs, hc ▸ T.refl c⟩
  have edit : ∀ index (f : Output → Output), (∀ o, (f o).ends = o.ends) →
      (Outcome.edited ch (ch.editOutput index f) c).channel.skeleton = ch.skeleton ∧
        R c (Outcome.edited ch (ch.editOutput index f) c).connection := fun index f hf =>
    quiet _ (skeleton_edited (fun ch' h => ch.skeleton_editOutput ch' index f hf h) c)
  cases op with
  | rename name => exact ⟨rfl, T.refl c⟩
  | setInputUrl url => exact ⟨rfl, T.refl c⟩
  | setOrientation orientation => exact ⟨rfl, T.refl c⟩
  | setDimensions width height => exact ⟨rfl, T.refl c⟩
  | setAutoStart enabled => exact ⟨rfl, T.refl c⟩
  | setReconnect policy => exact ⟨rfl, T.refl c⟩
  | setHealth policy => exact ⟨rfl, T.refl c⟩
  | setHealthMonitoring enabled defaults =>
    exact ⟨ch.skeleton_setHealthMonitoring enabled defaults, T.refl c⟩
  | setOutputEnabled index enabled => exact edit index _ fun _ => rfl
  | setOutputEncoding index encoding => exact edit index _ fun _ => rfl
  | setOutputAutoReconnect index enabled => exact edit index _ fun _ => rfl
  | setOutputStreamKey index streamKey => exact edit index _ fun _ => rfl
  | setOutputUrl index url => exact edit index _ fun _ => rfl
  | bulkSetEnabled indices enabled =>
    exact ⟨ch.skeleton_bulkSetEnabled indices enabled, T.refl c⟩
  | bulkSetEncoding indices encoding =>
    exact ⟨skeleton_changeEach ({ · with encoding }) (fun _ => rfl) ch indices, T.refl c⟩
  | setEncodingLive index encoding => exact setEncodingLive_tended T hr index encoding c
  | bulkStartOutputs indices =>
    exact bulkLive_tended T _ (fun id index ch c => startOutput_tended T id index ch c) hr indices c
  | bulkStopOutputs indices =>
    exact bulkLive_tended T _ (fun id index ch c => stopOutput_tended T id index ch c) hr indices c
  | reconnectOutput index => exact reconnectOutput_tended T hr index c
  | triggerFailover primary => exact triggerFailover_tended T hr primary c
  | restorePrimary primary => exact restorePrimary_tended T hr primary c
  | checkFailover => exact checkFailover_tended T hr c
  | checkHealth => exact checkHealth_tended T hr c
  | addOutput | removeOutput | setOutputBackup | removeOutputBackup | bulkRemoveOutputs => cases hk
  | start | stop | restart | startPreview | goLive | cancelPreview => cases hk

theorem tending_true (reference : String) :
    Tending (σ := σ) reference (fun _ _ => True) (fun _ _ => True) := by
  constructor <;> intros <;> trivial

theorem Operation.skeleton_run {op : Operation} (hk : op.kind = .tending) (ch : Channel)
    (c : Connection σ) : (op.run ch c).channel.skeleton = ch.skeleton :=
  (op.run_tended (tending_true _) ch.refersTo_getD hk c).1

theorem standing_dropOutput (ch : Channel) (index : Nat) :
    (ch.dropOutput index).standing = ch.standing := by
  unfold dropOutput
  cases ch.outputs[index]? <;> rfl

theorem standing_link (ch : Channel) (primary backup : Nat) (p b : OutputId) :
    (ch.link primary backup p b).standing = ch.standing := by
  unfold link
  cases ch.backupIndex? primary with
  | none => cases h : ch.primaryIndex? backup <;> simp only [h] <;> rfl
  | some old =>
    simp only
    cases h : (ch.changeOutput old ({ · with primary := none })).primaryIndex? backup <;> rfl

theorem standing_removeOutput {ch ch' : Channel} {index : Nat}
    (h : ch.removeOutput index = .ok ch') : ch'.standing = ch.standing :=
  removeOutput_eq h ▸ ch.standing_dropOutput index

theorem standing_setOutputBackup {ch ch' : Channel} {primary backup : Nat}
    (h : ch.setOutputBackup primary backup = .ok ch') : ch'.standing = ch.standing := by
  unfold setOutputBackup at h
  split at h
  · cases h
  · cases h
  · split_ifs at h
    · cases h
      rfl
    · cases h
      exact ch.standing_link primary backup _ _

theorem standing_removeOutputBackup {ch ch' : Channel} {primary : Nat}
    (h : ch.removeOutputBackup primary = .ok ch') : ch'.standing = ch.standing := by
  unfold removeOutputBackup at h
  split_ifs at h
  split at h
  · cases h
  · cases h
    rfl

theorem standing_bulkRemoveOutputs (ch : Channel) (indices : List Nat) :
    (ch.bulkRemoveOutputs indices).2.standing = ch.standing :=
  bulkRemoveOutputs_induction (motive := (·.standing = ch.standing))
    (fun _ _ _ h hremove => (standing_removeOutput hremove).trans h) rfl indices

omit [Service σ] in
theorem standing_edited {ch : Channel} {edit : Except ChannelError Channel}
    (h : ∀ ch', edit = .ok ch' → ch'.standing = ch.standing) (c : Connection σ) :
    (Outcome.edited ch edit c).channel.standing = ch.standing ∧
      (Outcome.edited ch edit c).connection = c := by
  cases edit with
  | ok ch' => exact ⟨h ch' rfl, rfl⟩
  | error e => exact ⟨rfl, rfl⟩

/-- An operation on the wiring keeps the standing of the channel and needs no connection. -/
theorem Operation.run_wired {op : Operation} (hk : op.kind = .wiring) (ch : Channel)
    (c : Connection σ) :
    (op.run ch c).channel.standing = ch.standing ∧ (op.run ch c).connection = c := by
  cases op with
  | addOutput => exact ⟨rfl, rfl⟩
  | removeOutput index => exact standing_edited (fun _ => standing_removeOutput) c
  | setOutputBackup => exact standing_edited (fun _ => standing_setOutputBackup) c
  | removeOutputBackup => exact standing_edited (fun _ => standing_removeOutputBackup) c
  | bulkRemoveOutputs indices => exact ⟨ch.standing_bulkRemoveOutputs indices, rfl⟩
  | _ => cases hk

theorem Operation.standing_run {op : Operation} (hk : op.kind ≠ .lifecycle) (ch : Channel)
    (c : Connection σ) : (op.run ch c).channel.standing = ch.standing := by
  cases h : op.kind with
  | tending => exact standing_eq (op.skeleton_run h ch c)
  | wiring => exact (op.run_wired h ch c).1
  | lifecycle => exact (hk h).elim

end Channel

end Simulcast
