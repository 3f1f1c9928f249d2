import Simulcast.Proofs.Backup.Changes
import Simulcast.Proofs.Channel.Lifecycle

/-!
# Operations check before they act

What an operation on a channel was asked for is checked before anything is written or requested, and
whatever fails after that is no input error. So an operation that ends in an input error left the
channel and the connection alone.
-/

namespace Simulcast.Channel

variable {σ : Type} {ch : Channel} {c : Connection σ}

def Admitted (result : Except ChannelError α) : Prop :=
  ∀ error, result = .error error → error.isInputError = false

/-- If the outcome is an input error, nothing was done. -/
def Outcome.ChecksFirst (o : Outcome σ α) (ch : Channel) (c : Connection σ) : Prop :=
  ∀ error, o.result = .error error → error.isInputError = true → o.channel = ch ∧ o.connection = c

theorem admitted_ok (a : α) : Admitted (.ok a) := nofun

theorem admitted_error {error : ChannelError} (h : error.isInputError = false) :
    Admitted (.error error : Except ChannelError α) := by
  rintro _ ⟨⟩
  exact h

theorem bulkResult_admitted (failed total : Nat) : Admitted (bulkResult failed total) := by
  unfold bulkResult
  split_ifs
  · exact admitted_ok ()
  · exact admitted_error rfl

namespace Outcome.ChecksFirst

theorem same (result : Except ChannelError α) : ChecksFirst ⟨result, ch, c⟩ ch c :=
  fun _ _ _ => ⟨rfl, rfl⟩

theorem of_admitted {o : Outcome σ α} (h : Admitted o.result) : o.ChecksFirst ch c := by
  intro error he hinput
  rw [h error he] at hinput
  cases hinput

theorem answering {o : Outcome σ α} (h : o.ChecksFirst ch c) (answer : α → Answer) :
    (o.answering answer).ChecksFirst ch c := by
  obtain ⟨error | value, ch', c'⟩ := o
  · rintro _ ⟨⟩
    exact h error rfl
  · exact of_admitted (admitted_ok _)

theorem edited (edit : Except ChannelError Channel) :
    (Outcome.edited ch edit c).ChecksFirst ch c := by
  cases edit with
  | ok ch' => exact of_admitted (admitted_ok _)
  | error error => exact same _

theorem reported {change : Except ChannelError Unit × Channel} (h : Admitted change.1) :
    (Outcome.reported change c).ChecksFirst ch c :=
  answering (of_admitted (o := ⟨change.1, change.2, c⟩) h) fun _ => .nothing

end Outcome.ChecksFirst

open Outcome (ChecksFirst)

theorem bulkRemoveOutputs_checksFirst (ch : Channel) (indices : List Nat) (c : Connection σ) :
    (Outcome.reported (ch.bulkRemoveOutputs indices) c).ChecksFirst ch c := by
  unfold bulkRemoveOutputs
  cases ch.ensureStopped "remove outputs" with
  | error error => exact .same _
  | ok _ => exact .reported (bulkResult_admitted _ _)

theorem backupIndex?_getElem {primary backup : Nat} (h : ch.backupIndex? primary = some backup) :
    ∃ o, ch.outputs[backup]? = some o := by
  obtain ⟨id, _, hposition⟩ := Option.bind_eq_some_iff.mp h
  obtain ⟨o, ho, _⟩ := position?_getElem hposition
  exact ⟨o, ho⟩

variable [Service σ]

theorem findProcess_admitted (ch : Channel) (c : Connection σ) : Admitted (ch.findProcess c).1 := by
  unfold findProcess
  cases ch.processReference with
  | none =>
    exact admitted_error rfl
  | some reference =>
    simp only
    rcases c.findProcess reference with ⟨error | (_ | process), c'⟩
    · exact admitted_error rfl
    · exact admitted_error rfl
    · exact admitted_ok process

/-! ### Starting and stopping -/

theorem teardown_admitted (ch : Channel) (c : Connection σ) : Admitted (ch.teardown c).1 := by
  unfold teardown
  cases ch.processReference with
  | none => exact admitted_ok ()
  | some reference =>
    simp only
    rcases c.findProcess reference with ⟨error | (_ | process), c₁⟩
    · exact admitted_error rfl
    · exact admitted_ok ()
    · simp only
      rcases c₁.perform (.command process.id .stop) with ⟨error | _, c₂⟩
      · simp only
        split_ifs
        · exact admitted_ok ()
        · exact admitted_error rfl
      · exact admitted_ok ()

theorem launch_admitted (ch : Channel) (c : Connection σ) : Admitted (ch.launch c).result := by
  unfold launch
  rcases c.perform (.createProcess ch.processConfig) with ⟨error | id, c₁⟩
  · exact admitted_error rfl
  · simp only
    rcases c₁.perform (.command id .start) with ⟨error | _, c₂⟩
    · exact admitted_error rfl
    · exact admitted_ok ()

theorem startRemote_admitted (ch : Channel) (c : Connection σ) :
    Admitted (ch.startRemote c).result := by
  have hdown := ch.teardown_admitted c
  unfold startRemote
  split_ifs
  · exact admitted_error rfl
  · exact admitted_error rfl
  · generalize ch.teardown c = down at hdown ⊢
    obtain ⟨error | _, c'⟩ := down
    · exact hdown
    · exact launch_admitted _ c'

theorem start_admitted (h : ch.Startable) (c : Connection σ) : Admitted (ch.start c).result := by
  have hremote := ch.startRemote_admitted c
  unfold start
  generalize ch.startRemote c = outcome at hremote ⊢
  obtain ⟨error | _, ch', c'⟩ := outcome
  · rcases h with h | h <;> rw [h] <;> exact hremote
  · rcases h with h | h <;> rw [h] <;> exact admitted_ok ()

theorem start_checksFirst (ch : Channel) (c : Connection σ) : (ch.start c).ChecksFirst ch c := by
  by_cases h : ch.Startable
  · exact .of_admitted (start_admitted h c)
  · unfold start
    cases hs : ch.status with
    | inactive => exact (h (.inl hs)).elim
    | error => exact (h (.inr hs)).elim
    | _ => exact .same _

theorem stopRemote_admitted (ch : Channel) (c : Connection σ) :
    Admitted (ch.stopRemote c).result := by
  have hdown := teardown_admitted { ch with status := .stopping } c
  simp only [stopRemote]
  generalize ({ ch with status := .stopping } : Channel).teardown c = down at hdown ⊢
  obtain ⟨error | _, c'⟩ := down
  · exact hdown
  · exact admitted_ok ()

theorem stop_checksFirst (ch : Channel) (c : Connection σ) : (ch.stop c).ChecksFirst ch c := by
  unfold stop
  cases ch.status with
  | active | preview | error => exact .of_admitted (ch.stopRemote_admitted c)
  | _ => exact .same _

theorem restart_checksFirst (ch : Channel) (c : Connection σ) :
    (ch.restart c).ChecksFirst ch c := by
  have hstop := ch.stop_checksFirst c
  have hinactive := ch.stop_ok_inactive c
  unfold restart
  generalize ch.stop c = stopped at hstop hinactive ⊢
  obtain ⟨error | _, ch', c'⟩ := stopped
  · exact hstop
  · exact .of_admitted (start_admitted (.inl (hinactive rfl)) c')

theorem startPreview_checksFirst (ch : Channel) (duration : Duration) (c : Connection σ) :
    (ch.startPreview duration c).ChecksFirst ch c := by
  have hremote := ch.startRemote_admitted c
  simp only [startPreview]
  split_ifs
  · generalize ch.startRemote c = outcome at hremote ⊢
    obtain ⟨error | _, ch', c'⟩ := outcome
    · exact .of_admitted hremote
    · exact .of_admitted (admitted_ok ())
  · exact .same _

theorem cancelPreview_checksFirst (ch : Channel) (c : Connection σ) :
    (ch.cancelPreview c).ChecksFirst ch c := by
  unfold cancelPreview
  split_ifs
  · exact .of_admitted (ch.stopRemote_admitted c)
  · exact .same _

/-! ### On the air -/

theorem replaceRemote_admitted {index : Nat} {o : Output} (ho : ch.outputs[index]? = some o)
    (c : Connection σ) : Admitted (ch.replaceRemote index c).1 := by
  have hadd (id : String) (output : ProcessOutput) (c : Connection σ) :
      Admitted (replaceRemote.add id output c).1 := by
    unfold replaceRemote.add
    rcases c.perform (.addOutput id output) with ⟨error | _, c'⟩
    · exact admitted_error rfl
    · exact admitted_ok ()
  have hfound := ch.findProcess_admitted c
  unfold replaceRemote
  generalize ch.findProcess c = found at hfound ⊢
  obtain ⟨error | process, c₁⟩ := found
  · exact admitted_error (hfound error rfl)
  · have houtput : ch.processOutput? index = some (ch.pushed index o) := by
      simp [processOutput?, ho]
    simp only [houtput]
    rcases c₁.perform (.removeOutput process.id (ch.pushed index o).id) with ⟨error | _, c₂⟩
    · simp only
      split_ifs
      · exact hadd _ _ c₂
      · exact admitted_error rfl
    · exact hadd _ _ c₂

theorem setEncodingLive_checksFirst (ch : Channel) (index : Nat) (encoding : Encoding)
    (c : Connection σ) : (ch.setEncodingLive index encoding c).ChecksFirst ch c := by
  unfold setEncodingLive
  cases ho : ch.outputs[index]? with
  | none => exact .same _
  | some o =>
    simp only
    split_ifs
    · exact .same _
    · have hchanged : (ch.changeOutput index ({ · with encoding })).outputs[index]? =
          some { o with encoding } := by
        simp [changeOutput, ho]
      have hreplaced := replaceRemote_admitted hchanged c
      generalize (ch.changeOutput index ({ · with encoding })).replaceRemote index c = replaced
        at hreplaced ⊢
      obtain ⟨error | _, c'⟩ := replaced
      · exact .of_admitted hreplaced
      · exact .of_admitted (admitted_ok ())
    · exact .of_admitted (admitted_ok ())

theorem bulkLive_checksFirst (operation : String)
    (step : String → Nat → Channel → Connection σ → Bool × Channel × Connection σ)
    (ch : Channel) (indices : List Nat) (c : Connection σ) :
    (bulkLive operation step ch indices c).ChecksFirst ch c := by
  have hfound := ch.findProcess_admitted c
  unfold bulkLive
  split_ifs
  · exact .same _
  · generalize ch.findProcess c = found at hfound ⊢
    obtain ⟨error | process, c'⟩ := found
    · exact .of_admitted (admitted_error (hfound error rfl))
    · exact .of_admitted (bulkResult_admitted _ _)

theorem reconnectOutput_checksFirst (ch : Channel) (index : Nat) (c : Connection σ) :
    (ch.reconnectOutput index c).ChecksFirst ch c := by
  unfold reconnectOutput
  cases ch.outputs[index]? with
  | none => exact .same _
  | some output =>
    simp only
    split_ifs
    · exact .same _
    · exact .of_admitted (admitted_error rfl)
    · rcases ch.findProcess (c.sleep ch.reconnect.delay) with ⟨error | process, c₁⟩
      · exact .of_admitted (admitted_ok false)
      · simp only
        split_ifs
        · rcases (c₁.perform (.removeOutput process.id _)).connection.perform (.addOutput process.id
            (ch.pushed index output)) with ⟨error | _, c₂⟩
          · exact .of_admitted (admitted_ok false)
          · exact .of_admitted (admitted_ok true)
        · exact .of_admitted (admitted_ok false)

theorem swapIfActive_admitted {outgoing incoming : Nat} {o i : Output}
    (ho : ch.outputs[outgoing]? = some o) (hi : ch.outputs[incoming]? = some i)
    (c : Connection σ) : Admitted (ch.swapIfActive outgoing incoming c).1 := by
  have hfound := ch.findProcess_admitted c
  unfold swapIfActive
  split_ifs
  · unfold swapRemote
    generalize ch.findProcess c = found at hfound ⊢
    obtain ⟨error | process, c₁⟩ := found
    · exact admitted_error (hfound error rfl)
    · have hincoming : ch.processOutput? incoming = some (ch.pushed incoming i) := by
        simp [processOutput?, hi]
      have houtgoing : ch.remoteOutputId? outgoing = some (remoteId o.platform outgoing) := by
        simp [remoteOutputId?, ho]
      simp only [hincoming, houtgoing]
      rcases c₁.perform (.addOutput process.id (ch.pushed incoming i)) with ⟨error | _, c₂⟩
      · simp only
        split_ifs
        · exact admitted_ok ()
        · exact admitted_error rfl
      · exact admitted_ok ()
  · exact admitted_ok ()

theorem triggerFailover_checksFirst (ch : Channel) (primary : Nat) (c : Connection σ) :
    (ch.triggerFailover primary c).ChecksFirst ch c := by
  unfold triggerFailover
  cases ho : ch.outputs[primary]? with
  | none => exact .same _
  | some output =>
    simp only
    cases hb : ch.backupIndex? primary with
    | none => exact .same _
    | some backup =>
      obtain ⟨b, hbackup⟩ := backupIndex?_getElem hb
      have hswap := swapIfActive_admitted ho hbackup c
      simp only
      split_ifs
      · exact .same _
      · generalize ch.swapIfActive primary backup c = swapped at hswap ⊢
        obtain ⟨error | _, c'⟩ := swapped
        · exact .of_admitted hswap
        · exact .of_admitted (admitted_ok ())

theorem restorePrimary_checksFirst (ch : Channel) (primary : Nat) (c : Connection σ) :
    (ch.restorePrimary primary c).ChecksFirst ch c := by
  unfold restorePrimary
  cases ho : ch.outputs[primary]? with
  | none => exact .same _
  | some output =>
    simp only
    cases hb : ch.backupIndex? primary with
    | none => exact .same _
    | some backup =>
      obtain ⟨b, hbackup⟩ := backupIndex?_getElem hb
      have hswap := swapIfActive_admitted hbackup ho c
      simp only
      split_ifs
      · generalize ch.swapIfActive backup primary c = swapped at hswap ⊢
        obtain ⟨error | _, c'⟩ := swapped
        · exact .of_admitted hswap
        · exact .of_admitted (admitted_ok ())
      · exact .same _

/-- An operation on a channel that ends in an input error did nothing. -/
theorem Operation.run_checksFirst (op : Operation) (ch : Channel) (c : Connection σ) :
    (op.run ch c).ChecksFirst ch c := by
  cases op with
  | rename | setInputUrl | setOrientation | setDimensions | setAutoStart | setReconnect | setHealth
  | setHealthMonitoring | addOutput | checkFailover | checkHealth =>
    exact .of_admitted (admitted_ok _)
  | removeOutput | setOutputEnabled | setOutputEncoding | setOutputAutoReconnect
  | setOutputStreamKey | setOutputUrl | setOutputBackup | removeOutputBackup | goLive =>
    exact .edited _
  | bulkSetEnabled | bulkSetEncoding => exact .reported (bulkResult_admitted _ _)
  | bulkRemoveOutputs indices => exact ch.bulkRemoveOutputs_checksFirst indices c
  | setEncodingLive index encoding =>
    exact (ch.setEncodingLive_checksFirst index encoding c).answering _
  | bulkStartOutputs indices => exact (bulkLive_checksFirst _ _ ch indices c).answering _
  | bulkStopOutputs indices => exact (bulkLive_checksFirst _ _ ch indices c).answering _
  | reconnectOutput index => exact (ch.reconnectOutput_checksFirst index c).answering _
  | triggerFailover primary => exact (ch.triggerFailover_checksFirst primary c).answering _
  | restorePrimary primary => exact (ch.restorePrimary_checksFirst primary c).answering _
  | start => exact (ch.start_checksFirst c).answering _
  | stop => exact (ch.stop_checksFirst c).answering _
  | restart => exact (ch.restart_checksFirst c).answering _
  | startPreview duration => exact (ch.startPreview_checksFirst duration c).answering _
  | cancelPreview => exact (ch.cancelPreview_checksFirst c).answering _

end Simulcast.Channel
