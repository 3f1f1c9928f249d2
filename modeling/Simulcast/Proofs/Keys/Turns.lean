import Simulcast.Channel.Health
import Simulcast.Channel.Live
import Simulcast.Channel.Preview
import Simulcast.Proofs.Keys.Keyless

/-!
# Channels without their stream keys at the service under the veil

The operations that talk to the service. A channel without its keys that meets the service under the
veil has the results of the channel at the service, and leaves what the channel leaves, without the
keys and under the veil.
-/

namespace Simulcast

namespace Channel

/-- What is left of an outcome without keys and under the veil. -/
def Outcome.veil (o : Outcome Simulated α) : Outcome Veiled α :=
  ⟨o.result, o.channel.keyless, o.connection.veil⟩

def veiledReply (r : α × Connection Simulated) : α × Connection Veiled := (r.1, r.2.veil)

def veiledTurn (r : α × Channel × Connection Simulated) : α × Channel × Connection Veiled :=
  (r.1, r.2.1.keyless, r.2.2.veil)

variable (ch : Channel) (c : Connection Simulated)

theorem keyless_findProcess : ch.keyless.findProcess c.veil = veiledReply (ch.findProcess c) := by
  unfold findProcess
  simp only [keyless_processReference]
  cases ch.processReference with
  | none => rfl
  | some reference =>
    simp only [Connection.findProcess_veil]
    rcases c.findProcess reference with ⟨error | (_ | process), c'⟩ <;> rfl

/-! ### Starting and stopping -/

theorem keyless_teardown : ch.keyless.teardown c.veil = veiledReply (ch.teardown c) := by
  unfold teardown
  simp only [keyless_processReference]
  cases ch.processReference with
  | none => rfl
  | some reference =>
    simp only [Connection.findProcess_veil]
    rcases c.findProcess reference with ⟨error | (_ | process), c₁⟩
    · rfl
    · rfl
    · simp only [Connection.Outcome.veil, Connection.perform_veil]
      rcases c₁.perform (.command process.id .stop) with ⟨error | _, c₂⟩
      · rfl
      · simp only [Connection.perform_veil]
        rfl

theorem keyless_started (reference : String) :
    ch.keyless.started reference = (ch.started reference).keyless := by
  simp only [started, keyless, changeOutputs, List.map_map]
  rfl

theorem keyless_launch : ch.keyless.launch c.veil = (ch.launch c).veil := by
  unfold launch
  rw [c.perform_createProcess_veil ch.keyless_processConfig]
  rcases c.perform (.createProcess ch.processConfig) with ⟨error | id, c₁⟩
  · rfl
  · simp only [Connection.Outcome.veil, Connection.perform_veil]
    rcases c₁.perform (.command id .start) with ⟨error | _, c₂⟩
    · simp only [Connection.perform_veil]
      rfl
    · simp only [keyless_started]
      rfl

theorem keyless_startRemote : ch.keyless.startRemote c.veil = (ch.startRemote c).veil := by
  simp only [startRemote, keyless_enabledCount, keyless_inputUrl, keyless_teardown]
  split_ifs
  · rfl
  · rfl
  · rcases ch.teardown c with ⟨error | _, c₁⟩
    · rfl
    · exact keyless_launch { ch with processReference := none, status := .starting } c₁

theorem keyless_start : ch.keyless.start c.veil = (ch.start c).veil := by
  simp only [start, keyless_status, keyless_startRemote]
  cases ch.status with
  | inactive | error => rcases ch.startRemote c with ⟨error | _, ch₁, c₁⟩ <;> rfl
  | _ => rfl

theorem keyless_stopped : ch.keyless.stopped = ch.stopped.keyless := by
  simp only [stopped, keyless, changeOutputs, List.map_map]
  rfl

theorem keyless_stopRemote : ch.keyless.stopRemote c.veil = (ch.stopRemote c).veil := by
  have hteardown : teardown { ch.keyless with status := .stopping } c.veil =
      veiledReply (teardown { ch with status := .stopping } c) :=
    keyless_teardown { ch with status := .stopping } c
  simp only [stopRemote, hteardown]
  rcases teardown { ch with status := .stopping } c with ⟨error | _, c₁⟩
  · rfl
  · exact congrArg (Outcome.mk (.ok ()) · c₁.veil) (keyless_stopped { ch with status := .stopping })

theorem keyless_stop : ch.keyless.stop c.veil = (ch.stop c).veil := by
  simp only [stop, keyless_status, keyless_stopRemote]
  cases ch.status <;> rfl

theorem keyless_restart : ch.keyless.restart c.veil = (ch.restart c).veil := by
  simp only [restart, keyless_stop]
  rcases ch.stop c with ⟨error | _, ch₁, c₁⟩
  · rfl
  · exact ch₁.keyless_start c₁

theorem keyless_startPreview (duration : Duration) :
    ch.keyless.startPreview duration c.veil = (ch.startPreview duration c).veil := by
  simp only [startPreview, keyless_status, keyless_startRemote]
  split_ifs
  · rcases ch.startRemote c with ⟨error | _, ch₁, c₁⟩ <;> rfl
  · rfl

theorem keyless_goLive : ch.keyless.goLive = ch.goLive.map keyless := by
  simp only [goLive, keyless_status, apply_ite (Except.map keyless)]
  rfl

theorem keyless_cancelPreview : ch.keyless.cancelPreview c.veil = (ch.cancelPreview c).veil := by
  have hpreviewing : ch.keyless.isPreviewing = ch.isPreviewing := rfl
  simp only [cancelPreview, keyless_status, hpreviewing, keyless_stopRemote]
  split_ifs <;> rfl

/-! ### Outputs on the air -/

theorem keyless_add (id : String) {o o' : ProcessOutput} (ho : o'.veiled = o.veiled) :
    replaceRemote.add id o' c.veil = veiledReply (replaceRemote.add id o c) := by
  simp only [replaceRemote.add, c.perform_addOutput_veil id ho]
  rcases c.perform (.addOutput id o) with ⟨error | _, c₁⟩ <;> rfl

theorem keyless_replaceRemote (index : Nat) :
    ch.keyless.replaceRemote index c.veil = veiledReply (ch.replaceRemote index c) := by
  simp only [replaceRemote, keyless_findProcess, keyless_noOutput]
  rcases ch.findProcess c with ⟨error | process, c₁⟩
  · rfl
  · simp only [veiledReply, processOutput?, keyless_getElem?]
    cases ch.outputs[index]? with
    | none => rfl
    | some o =>
      have hremove := c₁.perform_veil (.removeOutput process.id (ch.pushed index o).id)
      simp only [Option.map_some, keyless_pushed_id, hremove]
      rcases c₁.perform (.removeOutput process.id (ch.pushed index o).id) with ⟨error | _, c₂⟩
      · simp only [Connection.Outcome.veil]
        split_ifs
        · exact keyless_add c₂ process.id (ch.keyless_pushed index o)
        · rfl
      · exact keyless_add c₂ process.id (ch.keyless_pushed index o)

theorem keyless_setEncodingLive (index : Nat) (encoding : Encoding) :
    ch.keyless.setEncodingLive index encoding c.veil =
      (ch.setEncodingLive index encoding c).veil := by
  have hchanged : ch.keyless.changeOutput index ({ · with encoding }) =
      (ch.changeOutput index ({ · with encoding })).keyless :=
    keyless_changeOutput (fun _ => by rfl) ch index
  simp only [setEncodingLive, keyless_getElem?, keyless_noOutput, keyless_status, hchanged,
    keyless_replaceRemote]
  cases ch.outputs[index]? with
  | none => rfl
  | some o =>
    simp only [Option.map_some, Output.keyless_enabled]
    split_ifs
    · rfl
    · rcases (ch.changeOutput index ({ · with encoding })).replaceRemote index c with
        ⟨error | _, c₁⟩
      · rfl
      · exact congrArg (Outcome.mk (.ok ()) · c₁.veil)
          (keyless_changeOutput (fun _ => by rfl) _ index)
    · rfl

theorem keyless_tally
    {step : Nat → Channel → Connection Simulated → Bool × Channel × Connection Simulated}
    {step' : Nat → Channel → Connection Veiled → Bool × Channel × Connection Veiled}
    (hstep : ∀ index ch c, step' index ch.keyless c.veil = veiledTurn (step index ch c))
    (indices : List Nat) :
    tally step' indices ch.keyless c.veil = veiledTurn (tally step indices ch c) := by
  induction indices generalizing ch c with
  | nil => rfl
  | cons index rest ih =>
    simp only [tally, hstep]
    obtain ⟨failed, ch₁, c₁⟩ := step index ch c
    simp only [veiledTurn, ih]

theorem keyless_bulkLive (operation : String)
    {step : String → Nat → Channel → Connection Simulated → Bool × Channel × Connection Simulated}
    {step' : String → Nat → Channel → Connection Veiled → Bool × Channel × Connection Veiled}
    (hstep : ∀ id index ch c, step' id index ch.keyless c.veil = veiledTurn (step id index ch c))
    (indices : List Nat) :
    bulkLive operation step' ch.keyless indices c.veil =
      (bulkLive operation step ch indices c).veil := by
  simp only [bulkLive, keyless_status, keyless_findProcess]
  split_ifs
  · rfl
  · rcases ch.findProcess c with ⟨error | process, c₁⟩
    · rfl
    · simp only [veiledReply, keyless_tally ch c₁ (hstep process.id)]
      rfl

theorem keyless_startOutput (id : String) (index : Nat) :
    startOutput id index ch.keyless c.veil = veiledTurn (startOutput id index ch c) := by
  have honAir := keyless_changeOutput (f := fun o => { o with enabled := true }.markConnected)
    (fun _ => rfl) ch index
  simp only [startOutput, keyless_getElem?]
  cases ch.outputs[index]? with
  | none => rfl
  | some o =>
    simp only [Option.map_some, Output.keyless_enabled, Output.keyless_isBackup, honAir,
      c.perform_addOutput_veil id (ch.keyless_pushed index o)]
    rcases c.perform (.addOutput id (ch.pushed index o)) with ⟨error | _, c₁⟩
    · simp only [Connection.Outcome.veil]
      split_ifs <;> rfl
    · simp only [Connection.Outcome.veil]
      split_ifs <;> rfl

theorem keyless_stopOutput (id : String) (index : Nat) :
    stopOutput id index ch.keyless c.veil = veiledTurn (stopOutput id index ch c) := by
  have hoffAir := keyless_changeOutput
    (f := fun o => { o with enabled := false, connected := false }) (fun _ => rfl) ch index
  simp only [stopOutput, keyless_getElem?]
  cases ch.outputs[index]? with
  | none => rfl
  | some o =>
    simp only [Option.map_some, Output.keyless_enabled, Output.keyless_platform, hoffAir,
      Connection.perform_veil]
    rcases c.perform (.removeOutput id (remoteId o.platform index)) with ⟨error | _, c₁⟩
    · simp only [Connection.Outcome.veil]
      split_ifs <;> rfl
    · simp only [Connection.Outcome.veil]
      split_ifs <;> rfl

/-! ### Repairs and failovers -/

theorem keyless_reconnectOutput (index : Nat) :
    ch.keyless.reconnectOutput index c.veil = (ch.reconnectOutput index c).veil := by
  have hoffAir := keyless_changeOutput
    (f := fun o => { o with enabled := false, connected := false }) (fun _ => rfl) ch index
  have hconnected := keyless_changeOutput (f := Output.markConnected) (fun _ => rfl) ch index
  simp only [reconnectOutput, keyless_getElem?, keyless_noOutput, keyless_status, keyless_reconnect,
    Connection.veil_sleep, keyless_findProcess, hoffAir, hconnected]
  cases ch.outputs[index]? with
  | none => rfl
  | some o =>
    simp only [Option.map_some, Output.keyless_failures]
    split_ifs
    · rfl
    · rfl
    · rcases ch.findProcess (c.sleep ch.reconnect.delay) with ⟨error | process, c₁⟩
      · rfl
      · have hremove := c₁.perform_veil (.removeOutput process.id (ch.pushed index o).id)
        simp only [veiledReply, keyless_pushed_id, hremove]
        rw [show (c₁.perform (.removeOutput process.id (ch.pushed index o).id)).veil.connection =
          (c₁.perform (.removeOutput process.id (ch.pushed index o).id)).connection.veil from rfl]
        split_ifs
        · generalize (c₁.perform (.removeOutput process.id (ch.pushed index o).id)).connection = c₂
          rw [c₂.perform_addOutput_veil process.id (ch.keyless_pushed index o)]
          rcases c₂.perform (.addOutput process.id (ch.pushed index o)) with ⟨error | _, c₃⟩ <;> rfl
        · rfl

theorem keyless_swapRemote (outgoing incoming : Nat) :
    ch.keyless.swapRemote outgoing incoming c.veil =
      veiledReply (ch.swapRemote outgoing incoming c) := by
  simp only [swapRemote, keyless_findProcess, keyless_noOutput, keyless_remoteOutputId?]
  rcases ch.findProcess c with ⟨error | process, c₁⟩
  · rfl
  · simp only [veiledReply, processOutput?, keyless_getElem?]
    cases ch.outputs[incoming]? with
    | none => rfl
    | some o =>
      cases ch.remoteOutputId? outgoing with
      | none => rfl
      | some removed =>
        simp only [Option.map_some,
          c₁.perform_addOutput_veil process.id (ch.keyless_pushed incoming o)]
        rcases c₁.perform (.addOutput process.id (ch.pushed incoming o)) with ⟨error | _, c₂⟩
        · simp only [Connection.Outcome.veil, Connection.perform_veil]
          split_ifs <;> rfl
        · simp only [Connection.Outcome.veil, Connection.perform_veil]

theorem keyless_swapIfActive (outgoing incoming : Nat) :
    ch.keyless.swapIfActive outgoing incoming c.veil =
      veiledReply (ch.swapIfActive outgoing incoming c) := by
  simp only [swapIfActive, keyless_status, keyless_swapRemote]
  split_ifs <;> rfl

theorem keyless_triggerFailover (primary : Nat) :
    ch.keyless.triggerFailover primary c.veil = (ch.triggerFailover primary c).veil := by
  simp only [triggerFailover, keyless_getElem?, keyless_noOutput, keyless_backupIndex?,
    keyless_swapIfActive]
  cases ch.outputs[primary]? with
  | none => rfl
  | some o =>
    cases ch.backupIndex? primary with
    | none => rfl
    | some backup =>
      simp only [Option.map_some, Output.keyless_failoverActive]
      split_ifs
      · rfl
      · rcases ch.swapIfActive primary backup c with ⟨error | _, c₁⟩
        · rfl
        · simp only [veiledReply]
          rw [keyless_changeOutput fun _ => by rfl, keyless_changeOutput fun _ => by rfl]
          rfl

theorem keyless_restorePrimary (primary : Nat) :
    ch.keyless.restorePrimary primary c.veil = (ch.restorePrimary primary c).veil := by
  simp only [restorePrimary, keyless_getElem?, keyless_noOutput, keyless_backupIndex?,
    keyless_swapIfActive]
  cases ch.outputs[primary]? with
  | none => rfl
  | some o =>
    cases ch.backupIndex? primary with
    | none => rfl
    | some backup =>
      simp only [Option.map_some, Output.keyless_failoverActive]
      split_ifs
      · rcases ch.swapIfActive backup primary c with ⟨error | _, c₁⟩
        · rfl
        · simp only [veiledReply]
          rw [keyless_changeOutput fun _ => by rfl, keyless_changeOutput fun _ => by rfl]
          rfl
      · rfl

theorem keyless_failoverEach (indices : List Nat) :
    failoverEach indices ch.keyless c.veil = veiledTurn (failoverEach indices ch c) := by
  induction indices generalizing ch c with
  | nil => rfl
  | cons index rest ih =>
    simp only [failoverEach, keyless_triggerFailover]
    rcases ch.triggerFailover index c with ⟨error | _, ch₁, c₁⟩
    · simp only [Outcome.veil, veiledTurn, ih]
    · simp only [Outcome.veil, veiledTurn, ih]

theorem keyless_checkFailover :
    ch.keyless.checkFailover c.veil = veiledTurn (ch.checkFailover c) := by
  simp only [checkFailover, keyless_status, keyless_failoverCandidates, keyless_failoverEach]
  split_ifs <;> rfl

/-! ### Health passes -/

theorem keyless_inspectOutput (present : List String) (checkedAt index : Nat) :
    inspectOutput present checkedAt index ch.keyless c.veil =
      ((inspectOutput present checkedAt index ch c).1.keyless,
        (inspectOutput present checkedAt index ch c).2.veil) := by
  have hpresent := keyless_changeOutput
    (f := fun o => { o with lastCheck := some checkedAt }.markConnected) (fun _ => rfl) ch index
  simp only [inspectOutput, keyless_getElem?, hpresent]
  cases ch.outputs[index]? with
  | none => rfl
  | some o =>
    have hmissed : { o.keyless with lastCheck := some checkedAt }.markMissing =
        ({ o with lastCheck := some checkedAt }.markMissing).keyless := rfl
    dsimp only at hmissed
    simp only [Option.map_some, hmissed]
    generalize { o with lastCheck := some checkedAt }.markMissing = missing
    have hmissing : ch.keyless.changeOutput index (fun _ => missing.keyless) =
        (ch.changeOutput index fun _ => missing).keyless :=
      keyless_changeOutput_of (fun _ => by rfl) ch index
    simp only [Output.keyless_enabled, Output.keyless_platform, Output.keyless_failures,
      Output.keyless_autoReconnect, keyless_health, hmissing, keyless_reconnectOutput]
    split_ifs <;> rfl

theorem keyless_inspectEach (present : List String) (checkedAt : Nat) (indices : List Nat) :
    inspectEach present checkedAt indices ch.keyless c.veil =
      ((inspectEach present checkedAt indices ch c).1.keyless,
        (inspectEach present checkedAt indices ch c).2.veil) := by
  induction indices generalizing ch c with
  | nil => rfl
  | cons index rest ih =>
    simp only [inspectEach, keyless_inspectOutput, ih]

theorem keyless_inspectAll (checkedAt : Nat) (running : Bool) (present : List String) :
    ch.keyless.inspectAll checkedAt running present c.veil =
      veiledTurn (ch.inspectAll checkedAt running present c) := by
  simp only [inspectAll, keyless_length, keyless_inspectEach, keyless_allConnected]
  rfl

theorem keyless_healthPass (now : Instant) :
    ch.keyless.healthPass now c.veil = veiledTurn (ch.healthPass now c) := by
  have hchecked : { ch.keyless with lastCheck := some now } =
      { ch with lastCheck := some now }.keyless := rfl
  simp only [healthPass, hchecked, keyless_findProcess]
  rcases findProcess { ch with lastCheck := some now } c with ⟨error | process, c₁⟩
  · rfl
  · simp only [veiledReply, keyless_inspectAll, Connection.perform_veil]
    rcases c₁.perform (.getOutputs process.id) with ⟨error | present, c₂⟩
    · simp only [Connection.Outcome.veil]
      split_ifs <;> rfl
    · simp only [Connection.Outcome.veil, keyless_inspectAll]
      split_ifs <;> rfl

theorem keyless_checkHealth : ch.keyless.checkHealth c.veil = veiledTurn (ch.checkHealth c) := by
  simp only [checkHealth, keyless_status, keyless_health, Connection.veil_now, keyless_healthPass]
  split_ifs <;> rfl

end Channel

end Simulcast
