import Simulcast.Proofs.Channel.Lifecycle
import Simulcast.Proofs.Channel.Outputs

/-!
# What is said of a failover

The stance of an output is its id with its links, whether it is failed over, and since when. Only a
few operations change it: those on the wiring of the channel, and the failovers. All others, those
of the lifecycle among them, keep it at every output.
-/

namespace Simulcast

/-- The ends of an output with its failover. -/
structure Stance where
  ends : OutputId × Option OutputId × Option OutputId
  active : Bool
  start : Option Nat

def Output.stance (o : Output) : Stance where
  ends := o.ends
  active := o.failoverActive
  start := o.failoverStart

namespace Channel

def stances (ch : Channel) : List Stance := ch.outputs.map Output.stance

variable {ch : Channel} {index : Nat} {f : Output → Output}

theorem stances_changeOutput (hf : ∀ o, ch.outputs[index]? = some o → (f o).stance = o.stance) :
    (ch.changeOutput index f).stances = ch.stances := map_modify hf

theorem stances_map (hf : ∀ o, (f o).stance = o.stance) (outputs : List Output) :
    (outputs.map f).map Output.stance = outputs.map Output.stance := by
  have hstance : Output.stance ∘ f = Output.stance := funext hf
  rw [List.map_map, hstance]

theorem stances_edited (hf : ∀ o, (f o).stance = o.stance) (ch : Channel) (index : Nat)
    (c : Connection σ) :
    (Outcome.edited ch (ch.editOutput index f) c).channel.stances = ch.stances := by
  unfold editOutput
  split_ifs
  · exact stances_changeOutput fun o _ => hf o
  · rfl

theorem stances_changeEach (hf : ∀ o, (f o).stance = o.stance) (ch : Channel)
    (indices : List Nat) : (changeEach f ch indices).stances = ch.stances := by
  induction indices generalizing ch with
  | nil => rfl
  | cons index rest ih =>
    exact (ih (ch.changeOutput index f)).trans (stances_changeOutput fun o _ => hf o)

theorem stances_setHealthMonitoring (ch : Channel) (enabled : Bool) (defaults : HealthDefaults) :
    (ch.setHealthMonitoring enabled defaults).stances = ch.stances := by
  have hmap := stances_map (f := ({ · with autoReconnect := enabled })) (fun _ => rfl) ch.outputs
  simp only [setHealthMonitoring]
  split_ifs <;> exact hmap

variable {σ : Type} [Service σ]

/-! ### Operations on the air -/

theorem stances_setEncodingLive (ch : Channel) (index : Nat) (encoding : Encoding)
    (c : Connection σ) : (ch.setEncodingLive index encoding c).channel.stances = ch.stances := by
  have hchanged : (ch.changeOutput index ({ · with encoding })).stances = ch.stances :=
    stances_changeOutput fun _ _ => rfl
  unfold setEncodingLive
  cases ch.outputs[index]? with
  | none => rfl
  | some o =>
    simp only
    split_ifs
    · rfl
    · rcases replaceRemote _ index c with ⟨error | _, c'⟩
      · rfl
      · exact (stances_changeOutput fun _ _ => by rfl).trans hchanged
    · exact hchanged

theorem stances_startOutput (id : String) (index : Nat) (ch : Channel) (c : Connection σ) :
    (startOutput id index ch c).2.1.stances = ch.stances := by
  have honAir : (ch.changeOutput index fun o => { o with enabled := true }.markConnected).stances =
      ch.stances := stances_changeOutput fun _ _ => rfl
  unfold startOutput
  cases ch.outputs[index]? with
  | none => rfl
  | some o =>
    simp only
    split_ifs
    · rfl
    · rfl
    · rcases c.perform (.addOutput id (ch.pushed index o)) with ⟨error | _, c'⟩
      · simp only
        split_ifs
        · exact honAir
        · rfl
      · exact honAir

theorem stances_stopOutput (id : String) (index : Nat) (ch : Channel) (c : Connection σ) :
    (stopOutput id index ch c).2.1.stances = ch.stances := by
  have hoffAir : (ch.changeOutput index ({ · with enabled := false, connected := false })).stances =
      ch.stances := stances_changeOutput fun _ _ => rfl
  unfold stopOutput
  cases ch.outputs[index]? with
  | none => rfl
  | some o =>
    simp only
    split_ifs
    · rcases c.perform (.removeOutput id (remoteId o.platform index)) with ⟨error | _, c'⟩
      · simp only
        split_ifs
        · exact hoffAir
        · rfl
      · exact hoffAir
    · rfl

theorem stances_bulkLive (operation : String)
    {step : String → Nat → Channel → Connection σ → Bool × Channel × Connection σ}
    (hstep : ∀ id index ch c, (step id index ch c).2.1.stances = ch.stances) (ch : Channel)
    (indices : List Nat) (c : Connection σ) :
    (bulkLive operation step ch indices c).channel.stances = ch.stances := by
  unfold bulkLive
  split_ifs
  · rfl
  · rcases ch.findProcess c with ⟨error | process, c₁⟩
    · rfl
    · exact tally_induction (step process.id) (P := fun ch' _ => ch'.stances = ch.stances)
        (fun index ch' c' hch' => (hstep process.id index ch' c').trans hch') indices ch c₁ rfl

theorem stances_reconnectOutput (ch : Channel) (index : Nat) (c : Connection σ) :
    (ch.reconnectOutput index c).channel.stances = ch.stances := by
  unfold reconnectOutput
  cases ch.outputs[index]? with
  | none => rfl
  | some o =>
    simp only
    split_ifs
    · rfl
    · exact stances_changeOutput fun _ _ => rfl
    · rcases ch.findProcess (c.sleep ch.reconnect.delay) with ⟨error | process, c₁⟩
      · rfl
      · simp only
        split_ifs
        · rcases Connection.perform _ (.addOutput process.id (ch.pushed index o)) with
            ⟨error | _, c₂⟩
          · rfl
          · exact stances_changeOutput fun _ _ => rfl
        · rfl

theorem stances_inspectOutput (present : List String) (checkedAt index : Nat) (ch : Channel)
    (c : Connection σ) : (inspectOutput present checkedAt index ch c).1.stances = ch.stances := by
  unfold inspectOutput
  cases ho : ch.outputs[index]? with
  | none => rfl
  | some o =>
    have hmissing : (ch.changeOutput index fun _ =>
        { o with lastCheck := some checkedAt }.markMissing).stances = ch.stances := by
      refine stances_changeOutput fun o' ho' => ?_
      obtain rfl := Option.some.inj (ho.symm.trans ho')
      rfl
    simp only
    split_ifs
    · exact stances_changeOutput fun _ _ => rfl
    · exact (stances_reconnectOutput _ index c).trans hmissing
    · exact hmissing
    · rfl

theorem stances_inspectEach (present : List String) (checkedAt : Nat) (indices : List Nat)
    (ch : Channel) (c : Connection σ) :
    (inspectEach present checkedAt indices ch c).1.stances = ch.stances := by
  induction indices generalizing ch c with
  | nil => rfl
  | cons index rest ih =>
    exact (ih _ _).trans (stances_inspectOutput present checkedAt index ch c)

theorem stances_checkHealth (ch : Channel) (c : Connection σ) :
    (ch.checkHealth c).2.1.stances = ch.stances := by
  simp only [checkHealth, healthPass]
  split_ifs
  · rcases findProcess { ch with lastCheck := some c.now } c with ⟨error | process, c₁⟩
    · rfl
    · simp only
      split_ifs
      · rcases c₁.perform (.getOutputs process.id) with ⟨error | present, c₂⟩
        · rfl
        · exact stances_inspectEach present _ _ { ch with lastCheck := some c.now } c₂
      · exact stances_inspectEach [] _ _ { ch with lastCheck := some c.now } c₁
  · rfl

/-! ### All others -/

theorem Turn.stances_eq {ch ch' : Channel} (h : ch.Turn ch') : ch'.stances = ch.stances := by
  cases h with
  | active | preview =>
    exact stances_map
      (f := ({ · with connected := false, failures := 0, lastCheck := none })) (fun _ => rfl)
      ch.outputs
  | stopped => exact stances_map (f := ({ · with connected := false })) (fun _ => rfl) ch.outputs
  | _ => rfl

/-- What touches neither the wiring nor the failovers. -/
def Operation.rests : Operation → Bool
  | .addOutput .. | .removeOutput _ | .setOutputBackup .. | .removeOutputBackup _
  | .bulkRemoveOutputs _ | .triggerFailover _ | .restorePrimary _ | .checkFailover => false
  | _ => true

theorem Operation.stances_run {op : Operation} (h : op.rests) (ch : Channel) (c : Connection σ) :
    (op.run ch c).channel.stances = ch.stances := by
  by_cases hk : op.kind = .lifecycle
  · exact op.run_of_turn (P := fun ch' => ch'.stances = ch.stances)
      (fun ht h => ht.stances_eq.trans h) hk rfl c
  · cases op with
    | setHealthMonitoring enabled defaults => exact ch.stances_setHealthMonitoring enabled defaults
    | setOutputEnabled | setOutputEncoding | setOutputAutoReconnect | setOutputStreamKey
    | setOutputUrl => exact stances_edited (fun _ => by rfl) ch _ c
    | bulkSetEnabled indices enabled =>
      refine stances_changeEach (fun o => ?_) ch indices
      split_ifs <;> rfl
    | bulkSetEncoding indices encoding => exact stances_changeEach (fun _ => by rfl) ch indices
    | setEncodingLive index encoding => exact ch.stances_setEncodingLive index encoding c
    | bulkStartOutputs indices => exact stances_bulkLive _ stances_startOutput ch indices c
    | bulkStopOutputs indices => exact stances_bulkLive _ stances_stopOutput ch indices c
    | reconnectOutput index => exact ch.stances_reconnectOutput index c
    | checkHealth => exact ch.stances_checkHealth c
    | addOutput | removeOutput | setOutputBackup | removeOutputBackup | bulkRemoveOutputs
    | triggerFailover | restorePrimary | checkFailover => cases h
    | start | stop | restart | startPreview | goLive | cancelPreview => exact absurd rfl hk
    | _ => rfl

end Channel

end Simulcast
