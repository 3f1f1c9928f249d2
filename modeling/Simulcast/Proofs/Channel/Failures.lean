import Simulcast.Proofs.Channel.Lifecycle
import Simulcast.Proofs.Studio.Runs

/-!
# Failures on record

What an operation on a channel fails with once it was let in is the last error of the channel when
it returns. An operation of the lifecycle leaves the channel in error then, and every other one
leaves the status as it was.
-/

namespace Simulcast

/-- An error that was met with on the way: no input error, no count of what failed in bulk, and not
that there is no failover to undo. -/
def ChannelError.IsFailure (error : ChannelError) : Prop :=
  error.isInputError = false ∧ (∀ failed total, error ≠ .bulk failed total) ∧
    ∀ index, error ≠ .noActiveFailover index

namespace Channel

variable {σ : Type} {ch : Channel} {c : Connection σ} {status : Status}

/-- If the outcome is a failure, the channel has it as its last error, and this status. -/
def Outcome.Records (o : Outcome σ α) (status : Status) : Prop :=
  ∀ error, o.result = .error error → error.IsFailure →
    o.channel.lastError = some error.message ∧ o.channel.status = status

namespace Outcome.Records

theorem done (a : α) : Records ⟨.ok a, ch, c⟩ status := by
  rintro error ⟨⟩

theorem refused {error : ChannelError} (h : ¬ error.IsFailure) :
    Records (⟨.error error, ch, c⟩ : Outcome σ α) status := by
  rintro _ ⟨⟩ hfailure
  exact (h hfailure).elim

theorem noted (error : ChannelError) :
    Records (⟨.error error, ch.recordError error, c⟩ : Outcome σ α) ch.status := by
  rintro _ ⟨⟩ _
  exact ⟨rfl, rfl⟩

theorem of_input {o : Outcome σ α}
    (h : ∀ error, o.result = .error error → error.isInputError = true) : o.Records status := by
  intro error he hfailure
  have hinput := h error he
  rw [hfailure.1] at hinput
  cases hinput

theorem answering {o : Outcome σ α} (h : o.Records status) (answer : α → Answer) :
    (o.answering answer).Records status := by
  obtain ⟨error | value, ch', c'⟩ := o
  · rintro _ ⟨⟩
    exact h error rfl
  · exact done (answer value)

theorem edited {edit : Except ChannelError Channel}
    (h : ∀ error, edit = .error error → error.isInputError = true) :
    (Outcome.edited ch edit c).Records status := by
  cases edit with
  | ok ch' => exact done _
  | error error =>
    refine of_input ?_
    rintro _ ⟨⟩
    exact h error rfl

theorem of_bulk {failed total : Nat} :
    Records ⟨(bulkResult failed total).map fun _ => Answer.nothing, ch, c⟩ status := by
  unfold bulkResult
  split_ifs
  · exact done _
  · exact refused fun h => h.2.1 failed total rfl

end Outcome.Records

open Outcome (Records)

/-! ### Refused changes -/

theorem editOutput_refused {index : Nat} {f : Output → Output} {error : ChannelError}
    (h : ch.editOutput index f = .error error) : error.isInputError = true := by
  unfold editOutput at h
  split_ifs at h
  cases h
  rfl

theorem ensureStopped_refused {operation : String} {error : ChannelError}
    (h : ch.ensureStopped operation = .error error) : error.isInputError = true := by
  unfold ensureStopped at h
  split_ifs at h
  cases h
  rfl

theorem removeOutput_refused {index : Nat} {error : ChannelError}
    (h : ch.removeOutput index = .error error) : error.isInputError = true := by
  unfold removeOutput at h
  cases hstopped : ch.ensureStopped "remove output" with
  | error refusal =>
    rw [hstopped] at h
    cases h
    exact ensureStopped_refused hstopped
  | ok _ =>
    rw [hstopped] at h
    simp only at h
    split_ifs at h
    cases h
    rfl

theorem setOutputBackup_refused {primary backup : Nat} {error : ChannelError}
    (h : ch.setOutputBackup primary backup = .error error) : error.isInputError = true := by
  unfold setOutputBackup at h
  split at h
  · cases h
    rfl
  · cases h
    rfl
  · split_ifs at h
    · cases h
      rfl
    · cases h
      rfl

theorem removeOutputBackup_refused {primary : Nat} {error : ChannelError}
    (h : ch.removeOutputBackup primary = .error error) : error.isInputError = true := by
  unfold removeOutputBackup at h
  split_ifs at h
  · split at h
    · cases h
      rfl
    · cases h
  · cases h
    rfl

theorem goLive_refused {error : ChannelError} (h : ch.goLive = .error error) :
    error.isInputError = true := by
  unfold goLive at h
  split_ifs at h
  cases h
  rfl

theorem bulkRemoveOutputs_records (ch : Channel) (indices : List Nat) (c : Connection σ)
    (status : Status) : (Outcome.reported (ch.bulkRemoveOutputs indices) c).Records status := by
  unfold bulkRemoveOutputs
  cases hstopped : ch.ensureStopped "remove outputs" with
  | error error =>
    refine .of_input ?_
    rintro _ ⟨⟩
    exact ensureStopped_refused hstopped
  | ok _ => exact .of_bulk

variable [Service σ]

/-! ### The lifecycle -/

theorem startRemote_records (ch : Channel) (c : Connection σ) :
    (ch.startRemote c).Records .error := by
  intro error he _
  rcases ch.startRemote_cases c with ⟨failure, hr, hch⟩ | ⟨hr, _⟩
  · obtain rfl : failure = error := Except.error.inj (hr.symm.trans he)
    rcases hch with hch | hch
    · rw [hch]
      exact ⟨rfl, rfl⟩
    · rw [hch]
      exact ⟨rfl, rfl⟩
  · cases hr.symm.trans he

theorem stopRemote_records (ch : Channel) (c : Connection σ) :
    (ch.stopRemote c).Records .error := by
  intro error he _
  rcases ch.stopRemote_cases c with ⟨failure, _, hr, hch⟩ | ⟨hr, _⟩
  · obtain rfl : failure = error := Except.error.inj (hr.symm.trans he)
    rw [hch]
    exact ⟨rfl, rfl⟩
  · cases hr.symm.trans he

theorem start_records (ch : Channel) (c : Connection σ) : (ch.start c).Records .error := by
  have hremote := ch.startRemote_records c
  unfold start
  cases ch.status with
  | active => exact .done ()
  | inactive | error =>
    generalize ch.startRemote c = outcome at hremote ⊢
    obtain ⟨error | _, ch', c'⟩ := outcome
    · exact hremote
    · exact .done ()
  | _ => exact .refused fun h => nomatch h.1

theorem stop_records (ch : Channel) (c : Connection σ) : (ch.stop c).Records .error := by
  unfold stop
  cases ch.status with
  | inactive => exact .done ()
  | active | preview | error => exact ch.stopRemote_records c
  | _ => exact .refused fun h => nomatch h.1

theorem restart_records (ch : Channel) (c : Connection σ) : (ch.restart c).Records .error := by
  have hstop := ch.stop_records c
  unfold restart
  generalize ch.stop c = stopped at hstop ⊢
  obtain ⟨error | _, ch', c'⟩ := stopped
  · exact hstop
  · exact ch'.start_records c'

theorem startPreview_records (ch : Channel) (duration : Duration) (c : Connection σ) :
    (ch.startPreview duration c).Records .error := by
  have hremote := ch.startRemote_records c
  unfold startPreview
  split_ifs
  · generalize ch.startRemote c = outcome at hremote ⊢
    obtain ⟨error | _, ch', c'⟩ := outcome
    · exact hremote
    · exact .done ()
  · exact .refused fun h => nomatch h.1

theorem cancelPreview_records (ch : Channel) (c : Connection σ) :
    (ch.cancelPreview c).Records .error := by
  unfold cancelPreview
  split_ifs
  · exact ch.stopRemote_records c
  · exact .refused fun h => nomatch h.1

/-! ### On the air -/

theorem setEncodingLive_records (ch : Channel) (index : Nat) (encoding : Encoding)
    (c : Connection σ) : (ch.setEncodingLive index encoding c).Records ch.status := by
  unfold setEncodingLive
  cases ch.outputs[index]? with
  | none => exact .refused fun h => nomatch h.1
  | some output =>
    simp only
    split_ifs
    · exact .refused fun h => nomatch h.1
    · rcases (ch.changeOutput index ({ · with encoding })).replaceRemote index c with
        ⟨error | _, c'⟩
      · exact .noted error
      · exact .done ()
    · exact .done ()

/-- What fails at a single position is counted, and the count is no failure. -/
theorem bulkLive_records (operation : String)
    (step : String → Nat → Channel → Connection σ → Bool × Channel × Connection σ)
    (ch : Channel) (indices : List Nat) (c : Connection σ) :
    ((bulkLive operation step ch indices c).answering fun _ => .nothing).Records ch.status := by
  unfold bulkLive
  split_ifs
  · exact .refused fun h => nomatch h.1
  · rcases ch.findProcess c with ⟨error | process, c'⟩
    · exact .noted error
    · exact .of_bulk

theorem reconnectOutput_records (ch : Channel) (index : Nat) (c : Connection σ) :
    (ch.reconnectOutput index c).Records ch.status := by
  unfold reconnectOutput
  cases ch.outputs[index]? with
  | none => exact .refused fun h => nomatch h.1
  | some output =>
    simp only
    split_ifs
    · exact .refused fun h => nomatch h.1
    · exact .noted _
    · rcases ch.findProcess (c.sleep ch.reconnect.delay) with ⟨error | process, c₁⟩
      · exact .done false
      · simp only
        split_ifs
        · rcases (c₁.perform (.removeOutput process.id _)).connection.perform (.addOutput process.id
            (ch.pushed index output)) with ⟨error | _, c₂⟩
          · exact .done false
          · exact .done true
        · exact .done false

theorem triggerFailover_records (ch : Channel) (primary : Nat) (c : Connection σ) :
    (ch.triggerFailover primary c).Records ch.status := by
  unfold triggerFailover
  cases ch.outputs[primary]? with
  | none => exact .refused fun h => nomatch h.1
  | some output =>
    simp only
    cases ch.backupIndex? primary with
    | none => exact .refused fun h => nomatch h.1
    | some backup =>
      simp only
      split_ifs
      · exact .done ()
      · rcases ch.swapIfActive primary backup c with ⟨error | _, c'⟩
        · exact .noted error
        · exact .done ()

theorem restorePrimary_records (ch : Channel) (primary : Nat) (c : Connection σ) :
    (ch.restorePrimary primary c).Records ch.status := by
  unfold restorePrimary
  cases ch.outputs[primary]? with
  | none => exact .refused fun h => nomatch h.1
  | some output =>
    simp only
    cases ch.backupIndex? primary with
    | none => exact .refused fun h => nomatch h.1
    | some backup =>
      simp only
      split_ifs
      · rcases ch.swapIfActive backup primary c with ⟨error | _, c'⟩
        · exact .noted error
        · exact .done ()
      · exact .refused fun h => h.2.2 primary rfl

/-! ### Every operation -/

/-- The status an operation leaves when it fails. -/
def Operation.statusAfterFailure (op : Operation) (ch : Channel) : Status :=
  if op.kind = .lifecycle then .error else ch.status

theorem Operation.run_records (op : Operation) (ch : Channel) (c : Connection σ) :
    (op.run ch c).Records (op.statusAfterFailure ch) := by
  cases op with
  | rename | setInputUrl | setOrientation | setDimensions | setAutoStart | setReconnect | setHealth
  | setHealthMonitoring | addOutput | checkFailover | checkHealth => exact .done _
  | setOutputEnabled | setOutputEncoding | setOutputAutoReconnect | setOutputStreamKey
  | setOutputUrl => exact .edited fun _ => editOutput_refused
  | removeOutput => exact .edited fun _ => removeOutput_refused
  | setOutputBackup => exact .edited fun _ => setOutputBackup_refused
  | removeOutputBackup => exact .edited fun _ => removeOutputBackup_refused
  | goLive => exact .edited fun _ => goLive_refused
  | bulkSetEnabled | bulkSetEncoding => exact .of_bulk
  | bulkRemoveOutputs indices => exact ch.bulkRemoveOutputs_records indices c _
  | setEncodingLive index encoding =>
    exact (ch.setEncodingLive_records index encoding c).answering _
  | bulkStartOutputs indices => exact bulkLive_records _ _ ch indices c
  | bulkStopOutputs indices => exact bulkLive_records _ _ ch indices c
  | reconnectOutput index => exact (ch.reconnectOutput_records index c).answering _
  | triggerFailover primary => exact (ch.triggerFailover_records primary c).answering _
  | restorePrimary primary => exact (ch.restorePrimary_records primary c).answering _
  | start => exact (ch.start_records c).answering _
  | stop => exact (ch.stop_records c).answering _
  | restart => exact (ch.restart_records c).answering _
  | startPreview duration => exact (ch.startPreview_records duration c).answering _
  | cancelPreview => exact (ch.cancelPreview_records c).answering _

/-- What an operation on a channel fails with is the last error of the channel afterwards, and the
channel is in error if the operation is one of the lifecycle, and in the status it had if not. -/
theorem failure_on_record (op : Operation) (ch : Channel) (c : Connection σ) {error : ChannelError}
    (h : (op.run ch c).result = .error error) (hfailure : error.IsFailure) :
    (op.run ch c).channel.lastError = some error.message ∧
      (op.run ch c).channel.status = if op.kind = .lifecycle then .error else ch.status :=
  op.run_records ch c error h hfailure

/-- A channel that is restarted at a service that does not create its new process. -/
theorem failure_on_record_restarted :
    let ch := Studio.onAir.channels.head (by decide)
    let c := Studio.onAir.connection
    let busy := { c with remote := c.remote.failNext .createProcess 1 }
    let error := ChannelError.remote (Simulated.simulatedFailure .createProcess)
    (Operation.restart.run ch busy).result = .error error ∧ error.IsFailure ∧
      (Operation.restart.run ch busy).channel.lastError = some error.message ∧
      (Operation.restart.run ch busy).channel.status = .error := by
  intro ch c busy error
  have hrefused : (Operation.restart.run ch busy).result = .error error := rfl
  have hfailure : error.IsFailure := ⟨rfl, nofun, nofun⟩
  exact ⟨hrefused, hfailure, failure_on_record .restart ch busy hrefused hfailure⟩

end Channel

end Simulcast
