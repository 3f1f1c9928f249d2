import Mathlib.Data.List.InsertIdx
import Mathlib.Tactic.SplitIfs
import Simulcast.Proofs.Keys.Veil

/-!
# Channels without their stream keys

What an operation makes of a channel without its keys is what it makes of the channel, without the
keys. Here are the operations that need no connection, and what the service is told about a channel:
apart from the addresses it is told the same.
-/

namespace Simulcast

namespace Output

variable (o : Output)

-- The proofs are `by rfl` where the field is decided on: `simp` then rewrites the decision as well.
@[simp] theorem keyless_id : o.keyless.id = o.id := by rfl

@[simp] theorem keyless_platform : o.keyless.platform = o.platform := rfl

@[simp] theorem keyless_enabled : o.keyless.enabled = o.enabled := by rfl

@[simp] theorem keyless_failures : o.keyless.failures = o.failures := by rfl

@[simp] theorem keyless_autoReconnect : o.keyless.autoReconnect = o.autoReconnect := by rfl

@[simp] theorem keyless_backup : o.keyless.backup = o.backup := by rfl

@[simp] theorem keyless_isBackup : o.keyless.isBackup = o.isBackup := by rfl

@[simp] theorem keyless_failoverActive : o.keyless.failoverActive = o.failoverActive := by rfl

end Output

namespace Channel

variable (ch : Channel)

/-! ### Reading a channel -/

@[simp] theorem keyless_id : ch.keyless.id = ch.id := rfl

@[simp] theorem keyless_status : ch.keyless.status = ch.status := rfl

@[simp] theorem keyless_inputUrl : ch.keyless.inputUrl = ch.inputUrl := rfl

@[simp] theorem keyless_processReference :
    ch.keyless.processReference = ch.processReference := rfl

@[simp] theorem keyless_reconnect : ch.keyless.reconnect = ch.reconnect := rfl

@[simp] theorem keyless_health : ch.keyless.health = ch.health := rfl

@[simp] theorem keyless_getElem? (index : Nat) :
    ch.keyless.outputs[index]? = ch.outputs[index]?.map Output.keyless :=
  List.getElem?_map

@[simp] theorem keyless_length : ch.keyless.outputs.length = ch.outputs.length :=
  List.length_map Output.keyless

@[simp] theorem keyless_noOutput (index : Nat) : ch.keyless.noOutput index = ch.noOutput index :=
  congrArg (ChannelError.invalidOutputIndex index) ch.keyless_length

@[simp] theorem keyless_ensureStopped (operation : String) :
    ch.keyless.ensureStopped operation = ch.ensureStopped operation := rfl

@[simp] theorem keyless_outside : ch.keyless.outside = ch.outside := by
  funext index
  simp only [outside, keyless_length]

@[simp] theorem keyless_enabledCount : ch.keyless.enabledCount = ch.enabledCount := by
  simp only [enabledCount, keyless, changeOutputs, List.countP_map]
  rfl

@[simp] theorem keyless_allConnected : ch.keyless.allConnected = ch.allConnected := by
  simp only [allConnected, keyless, changeOutputs, List.all_map]
  rfl

@[simp] theorem keyless_position? (id : OutputId) : ch.keyless.position? id = ch.position? id := by
  simp only [position?, keyless, changeOutputs, List.findIdx?_map]
  rfl

@[simp] theorem keyless_backupIndex? (index : Nat) :
    ch.keyless.backupIndex? index = ch.backupIndex? index := by
  have hposition : ch.keyless.position? = ch.position? := funext ch.keyless_position?
  simp only [backupIndex?, keyless_getElem?, hposition]
  cases ch.outputs[index]? <;> rfl

@[simp] theorem keyless_primaryIndex? (index : Nat) :
    ch.keyless.primaryIndex? index = ch.primaryIndex? index := by
  have hposition : ch.keyless.position? = ch.position? := funext ch.keyless_position?
  simp only [primaryIndex?, keyless_getElem?, hposition]
  cases ch.outputs[index]? <;> rfl

theorem keyless_backupOf? (id : OutputId) : ch.keyless.backupOf? id = ch.backupOf? id := by
  have hfind : ch.keyless.outputs.find? (·.id == id) =
      (ch.outputs.find? (·.id == id)).map Output.keyless := by
    simp only [keyless, changeOutputs, List.find?_map]
    rfl
  simp only [backupOf?, hfind]
  cases ch.outputs.find? (·.id == id) <;> rfl

theorem keyless_chainMeets (target : OutputId) (steps : Nat) (id : OutputId) :
    ch.keyless.chainMeets target steps id = ch.chainMeets target steps id := by
  induction steps generalizing id with
  | zero => rfl
  | succ n ih =>
    simp only [chainMeets, keyless_backupOf?]
    cases ch.backupOf? id with
    | none => rfl
    | some next => simp only [ih]

@[simp] theorem keyless_failoverCandidates :
    ch.keyless.failoverCandidates = ch.failoverCandidates := by
  have hneeds (index : Nat) :
      (ch.keyless.outputs[index]?.map (needsFailover ch.failoverThreshold)).getD false =
        (ch.outputs[index]?.map (needsFailover ch.failoverThreshold)).getD false := by
    rw [keyless_getElem?]
    cases ch.outputs[index]? <;> rfl
  have hthreshold : ch.keyless.failoverThreshold = ch.failoverThreshold := rfl
  simp only [failoverCandidates, keyless_length, hthreshold, hneeds]

/-! ### What the service is told -/

theorem keyless_pushed (index : Nat) (o : Output) :
    (ch.keyless.pushed index o.keyless).veiled = (ch.pushed index o).veiled := rfl

@[simp] theorem keyless_pushed_id (index : Nat) (o : Output) :
    (ch.keyless.pushed index o.keyless).id = (ch.pushed index o).id := rfl

@[simp] theorem keyless_remoteOutputId? (index : Nat) :
    ch.keyless.remoteOutputId? index = ch.remoteOutputId? index := by
  simp only [remoteOutputId?, keyless_getElem?]
  cases ch.outputs[index]? <;> rfl

theorem keyless_processConfig : ch.keyless.processConfig.veiled = ch.processConfig.veiled := by
  have hpushed : ch.keyless.enabledOutputs.map ProcessOutput.veiled =
      ch.enabledOutputs.map ProcessOutput.veiled := by
    simp only [enabledOutputs, List.map_filterMap, keyless, changeOutputs, List.zipIdx_map,
      List.filterMap_map]
    congr 1
    funext ⟨o, index⟩
    cases ho : o.enabled with
    | false => simp [Output.keyless, Prod.map, ho]
    | true =>
      simp only [Function.comp, Prod.map, Output.keyless, ho]
      rfl
  exact congrArg (ProcessConfig.mk ch.id ch.inputUrl) hpushed

/-! ### Changing a channel -/

variable {ch}

theorem modify_map {α : Type} {erase f g : α → α} (h : ∀ a, f (erase a) = erase (g a))
    (items : List α) (index : Nat) :
    (items.map erase).modify index f = (items.modify index g).map erase := by
  induction items generalizing index with
  | nil => simp
  | cons a rest ih =>
    cases index with
    | zero => simp [h]
    | succ index => simp [ih]

theorem keyless_changeOutput_of {f g : Output → Output} (h : ∀ o, f o.keyless = (g o).keyless)
    (ch : Channel) (index : Nat) :
    ch.keyless.changeOutput index f = (ch.changeOutput index g).keyless :=
  congrArg (fun outputs => { ch with outputs }) (modify_map h ch.outputs index)

theorem keyless_changeOutput {f : Output → Output} (h : ∀ o, f o.keyless = (f o).keyless)
    (ch : Channel) (index : Nat) :
    ch.keyless.changeOutput index f = (ch.changeOutput index f).keyless :=
  keyless_changeOutput_of h ch index

theorem keyless_editOutput {f g : Output → Output} (h : ∀ o, f o.keyless = (g o).keyless)
    (ch : Channel) (index : Nat) :
    ch.keyless.editOutput index f = (ch.editOutput index g).map keyless := by
  simp only [editOutput, keyless_length, keyless_noOutput, keyless_changeOutput_of h]
  split_ifs <;> rfl

theorem keyless_changeEach {f : Output → Output} (h : ∀ o, f o.keyless = (f o).keyless)
    (ch : Channel) (indices : List Nat) :
    changeEach f ch.keyless indices = (changeEach f ch indices).keyless := by
  induction indices generalizing ch with
  | nil => rfl
  | cons index rest ih =>
    exact (congrArg (changeEach f · rest) (keyless_changeOutput h ch index)).trans
      (ih (ch.changeOutput index f))

theorem keyless_setHealthMonitoring (ch : Channel) (enabled : Bool) (defaults : HealthDefaults) :
    ch.keyless.setHealthMonitoring enabled defaults =
      (ch.setHealthMonitoring enabled defaults).keyless := by
  have hset : ch.keyless.outputs.map ({ · with autoReconnect := enabled }) =
      (ch.outputs.map ({ · with autoReconnect := enabled })).map Output.keyless := by
    simp only [keyless, changeOutputs, List.map_map]
    rfl
  unfold setHealthMonitoring
  by_cases h : enabled ∧ ch.health.interval = .zero
  · obtain ⟨rfl, hzero⟩ := h
    simp only [keyless_health, hzero, and_self, if_true, hset]
    rfl
  · simp only [keyless_health, h, if_false, hset]
    rfl

theorem keyless_addOutput (ch : Channel) (platform : Platform) (streamKey : String)
    (orientation : Orientation) (encoding : Encoding) :
    ch.keyless.addOutput platform "" orientation encoding =
      ((ch.addOutput platform streamKey orientation encoding).1,
        (ch.addOutput platform streamKey orientation encoding).2.keyless) := by
  simp only [addOutput, keyless_length]
  simp [keyless, changeOutputs, Output.keyless]

theorem keyless_dropOutput (ch : Channel) (index : Nat) :
    ch.keyless.dropOutput index = (ch.dropOutput index).keyless := by
  unfold dropOutput
  rw [keyless_getElem?]
  cases ch.outputs[index]? with
  | none => rfl
  | some removed =>
    simp only [Option.map_some, keyless, changeOutputs, List.eraseIdx_map, List.map_map]
    rfl

theorem keyless_removeOutput (ch : Channel) (index : Nat) :
    ch.keyless.removeOutput index = (ch.removeOutput index).map keyless := by
  simp only [removeOutput, keyless_ensureStopped, keyless_length, keyless_dropOutput,
    keyless_noOutput]
  cases ch.ensureStopped "remove output" with
  | error => rfl
  | ok =>
    simp only
    split_ifs <;> rfl

theorem keyless_removeEach (order : List Nat) (ch : Channel) :
    removeEach order ch.keyless = ((removeEach order ch).1, (removeEach order ch).2.keyless) := by
  induction order generalizing ch with
  | nil => rfl
  | cons index rest ih =>
    simp only [removeEach, keyless_removeOutput]
    cases ch.removeOutput index with
    | ok ch' => exact ih ch'
    | error error => simp only [Except.map, ih]

theorem keyless_bulkRemoveOutputs (ch : Channel) (indices : List Nat) :
    ch.keyless.bulkRemoveOutputs indices =
      ((ch.bulkRemoveOutputs indices).1, (ch.bulkRemoveOutputs indices).2.keyless) := by
  simp only [bulkRemoveOutputs, keyless_ensureStopped, keyless_removeEach]
  cases ch.ensureStopped "remove outputs" <;> rfl

theorem keyless_bulkSetEnabled (ch : Channel) (indices : List Nat) (enabled : Bool) :
    ch.keyless.bulkSetEnabled indices enabled =
      ((ch.bulkSetEnabled indices enabled).1, (ch.bulkSetEnabled indices enabled).2.keyless) := by
  have henable (o : Output) : (if enabled ∧ o.isBackup then o.keyless
      else { o.keyless with enabled }) = (if enabled ∧ o.isBackup then o
      else { o with enabled }).keyless := by
    split_ifs <;> rfl
  simp only [bulkSetEnabled, keyless_outside]
  rw [keyless_changeEach henable]

theorem keyless_bulkSetEncoding (ch : Channel) (indices : List Nat) (encoding : Encoding) :
    ch.keyless.bulkSetEncoding indices encoding =
      ((ch.bulkSetEncoding indices encoding).1,
        (ch.bulkSetEncoding indices encoding).2.keyless) := by
  simp only [bulkSetEncoding, keyless_outside]
  rw [keyless_changeEach fun _ => by rfl]

/-! ### Links -/

theorem keyless_link (ch : Channel) (primary backup : Nat) (p b : OutputId) :
    ch.keyless.link primary backup p b = (ch.link primary backup p b).keyless := by
  simp only [link, keyless_backupIndex?]
  cases ch.backupIndex? primary with
  | none =>
    simp only [keyless_primaryIndex?]
    cases ch.primaryIndex? backup with
    | none => rw [keyless_changeOutput fun _ => by rfl, keyless_changeOutput fun _ => by rfl]
    | some old =>
      simp only
      rw [keyless_changeOutput fun _ => by rfl, keyless_changeOutput fun _ => by rfl,
        keyless_changeOutput fun _ => by rfl]
  | some old =>
    simp only
    rw [keyless_changeOutput fun _ => by rfl, keyless_primaryIndex?]
    cases (ch.changeOutput old ({ · with primary := none })).primaryIndex? backup with
    | none =>
      rw [keyless_changeOutput fun _ => by rfl, keyless_changeOutput fun _ => by rfl]
    | some former =>
      simp only
      rw [keyless_changeOutput fun _ => by rfl, keyless_changeOutput fun _ => by rfl,
        keyless_changeOutput fun _ => by rfl]

theorem keyless_setOutputBackup (ch : Channel) (primary backup : Nat) :
    ch.keyless.setOutputBackup primary backup =
      (ch.setOutputBackup primary backup).map keyless := by
  simp only [setOutputBackup, keyless_getElem?, keyless_noOutput, keyless_length]
  cases ch.outputs[primary]? with
  | none => rfl
  | some p =>
    cases ch.outputs[backup]? with
    | none => rfl
    | some b =>
      simp only [Option.map_some, Output.keyless_backup, Output.keyless_id, keyless_chainMeets,
        keyless_link]
      split_ifs <;> rfl

theorem keyless_removeOutputBackup (ch : Channel) (primary : Nat) :
    ch.keyless.removeOutputBackup primary = (ch.removeOutputBackup primary).map keyless := by
  simp only [removeOutputBackup, keyless_length, keyless_backupIndex?, keyless_noOutput]
  split_ifs
  · cases ch.backupIndex? primary with
    | none => rfl
    | some backup =>
      simp only
      rw [keyless_changeOutput fun _ => by rfl, keyless_changeOutput fun _ => by rfl]
      rfl
  · rfl

end Channel

end Simulcast
