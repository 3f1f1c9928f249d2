import Simulcast.Operation
import Simulcast.Proofs.Keys.Turns

/-!
# Operations without the stream keys they bring

An operation without its keys, on a channel or a studio without theirs and at the service under the
veil, answers what the operation answers and leaves what the operation leaves, without keys and
under the veil.
-/

namespace Simulcast

namespace Channel

def Operation.keyless : Operation → Operation
  | .addOutput platform _ orientation encoding => .addOutput platform "" orientation encoding
  | .setOutputStreamKey index _ => .setOutputStreamKey index ""
  | op => op

theorem Operation.keyless_keyless (op : Operation) : op.keyless.keyless = op.keyless := by
  cases op <;> rfl

variable (ch : Channel) (c : Connection Simulated)

theorem keyless_edited (edit : Except ChannelError Channel) :
    Outcome.edited ch.keyless (edit.map keyless) c.veil = (Outcome.edited ch edit c).veil := by
  cases edit <;> rfl

theorem Operation.run_keyless (op : Operation) :
    op.keyless.run ch.keyless c.veil = (op.run ch c).veil := by
  cases op with
  | setHealthMonitoring enabled defaults =>
    exact congrArg (Outcome.changed · c.veil) (keyless_setHealthMonitoring ch enabled defaults)
  | addOutput platform streamKey orientation encoding =>
    simp only [Operation.keyless, Operation.run, keyless_addOutput ch platform streamKey]
    rfl
  | removeOutput index =>
    simp only [Operation.keyless, Operation.run, keyless_removeOutput, keyless_edited]
  | setOutputEnabled | setOutputEncoding | setOutputAutoReconnect | setOutputStreamKey
  | setOutputUrl =>
    refine Eq.trans (congrArg (Outcome.edited ch.keyless · c.veil) ?_) (keyless_edited ch c _)
    exact keyless_editOutput (fun _ => by rfl) ch _
  | setOutputBackup primary backup =>
    simp only [Operation.keyless, Operation.run, keyless_setOutputBackup, keyless_edited]
  | removeOutputBackup primary =>
    simp only [Operation.keyless, Operation.run, keyless_removeOutputBackup, keyless_edited]
  | bulkSetEnabled indices enabled =>
    exact congrArg (Outcome.reported · c.veil) (keyless_bulkSetEnabled ch indices enabled)
  | bulkRemoveOutputs indices =>
    exact congrArg (Outcome.reported · c.veil) (keyless_bulkRemoveOutputs ch indices)
  | bulkSetEncoding indices encoding =>
    exact congrArg (Outcome.reported · c.veil) (keyless_bulkSetEncoding ch indices encoding)
  | setEncodingLive index encoding =>
    exact congrArg (Outcome.answering · _) (keyless_setEncodingLive ch c index encoding)
  | bulkStartOutputs indices =>
    exact congrArg (Outcome.answering · _)
      (keyless_bulkLive ch c "start outputs"
        (fun id index ch c => keyless_startOutput ch c id index) indices)
  | bulkStopOutputs indices =>
    exact congrArg (Outcome.answering · _)
      (keyless_bulkLive ch c "stop outputs" (fun id index ch c => keyless_stopOutput ch c id index)
        indices)
  | reconnectOutput index =>
    exact congrArg (Outcome.answering · _) (keyless_reconnectOutput ch c index)
  | triggerFailover primary =>
    exact congrArg (Outcome.answering · _) (keyless_triggerFailover ch c primary)
  | restorePrimary primary =>
    exact congrArg (Outcome.answering · _) (keyless_restorePrimary ch c primary)
  | checkFailover =>
    simp only [Operation.keyless, Operation.run, keyless_checkFailover]
    rfl
  | checkHealth =>
    simp only [Operation.keyless, Operation.run, keyless_checkHealth]
    rfl
  | start => exact congrArg (Outcome.answering · _) (keyless_start ch c)
  | stop => exact congrArg (Outcome.answering · _) (keyless_stop ch c)
  | restart => exact congrArg (Outcome.answering · _) (keyless_restart ch c)
  | startPreview duration =>
    exact congrArg (Outcome.answering · _) (keyless_startPreview ch c duration)
  | goLive => simp only [Operation.keyless, Operation.run, keyless_goLive, keyless_edited]
  | cancelPreview => exact congrArg (Outcome.answering · _) (keyless_cancelPreview ch c)
  | _ => rfl

end Channel

namespace Studio

def keyless (s : Studio Simulated) : Studio Veiled where
  connection := s.connection.veil
  channels := s.channels.map Channel.keyless
  templates := s.templates

def Outcome.veil (o : Outcome Simulated α) : Outcome Veiled α := ⟨o.result, o.studio.keyless⟩

def Operation.keyless : Operation → Operation
  | .onChannel id operation => .onChannel id operation.keyless
  | .applyTemplate channel template _ => .applyTemplate channel template ""
  | op => op

theorem Operation.keyless_keyless (op : Operation) : op.keyless.keyless = op.keyless := by
  cases op with
  | onChannel id operation => exact congrArg (Operation.onChannel id) operation.keyless_keyless
  | _ => rfl

variable (s : Studio Simulated)

theorem keyless_find? (id : String) : s.keyless.find? id = (s.find? id).map Channel.keyless := by
  simp only [find?, keyless, List.find?_map]
  rfl

theorem keyless_template? (id : String) : s.keyless.template? id = s.template? id := rfl

theorem keyless_replaceFirst (id : String) (ch : Channel) (channels : List Channel) :
    replaceFirst id ch.keyless (channels.map Channel.keyless) =
      (replaceFirst id ch channels).map Channel.keyless := by
  induction channels with
  | nil => rfl
  | cons first rest ih =>
    simp only [List.map_cons, replaceFirst, Channel.keyless_id, ih]
    split_ifs <;> rfl

theorem keyless_onChannel (id : String)
    {operation : Channel → Connection Simulated → Channel.Outcome Simulated α}
    {operation' : Channel → Connection Veiled → Channel.Outcome Veiled α}
    (hoperation : ∀ ch c, operation' ch.keyless c.veil = (operation ch c).veil) :
    s.keyless.onChannel id operation' = (s.onChannel id operation).veil := by
  simp only [onChannel, keyless_find?]
  cases s.find? id with
  | none => rfl
  | some ch =>
    have hrun : operation' ch.keyless s.keyless.connection =
        (operation ch s.connection).veil := hoperation ch s.connection
    simp only [Option.map_some, hrun]
    obtain ⟨result, ch₁, c₁⟩ := operation ch s.connection
    exact congrArg
      (fun channels => Outcome.mk result { s.keyless with connection := c₁.veil, channels })
      (keyless_replaceFirst id ch₁ s.channels)

theorem keyless_duplicate (ch : Channel) (id name : String) :
    ch.keyless.duplicate id name = (ch.duplicate id name).keyless := by
  simp only [Channel.duplicate, Channel.keyless, Channel.changeOutputs, List.map_map]
  rfl

theorem keyless_duplicateChannel (source id name : String) :
    s.keyless.duplicateChannel source id name = (s.duplicateChannel source id name).veil := by
  simp only [duplicateChannel, keyless_find?]
  cases s.find? source with
  | none => rfl
  | some ch =>
    simp only [Option.map_some, keyless_duplicate, Outcome.veil, keyless, List.map_append,
      List.map_singleton]

theorem keyless_createChannel (id name : String) :
    s.keyless.createChannel id name = (s.createChannel id name).keyless := by
  simp only [createChannel, keyless, List.map_append, List.map_singleton]
  rfl

theorem keyless_deleteChannel (id : String) :
    s.keyless.deleteChannel id = (s.deleteChannel id).veil := by
  simp only [deleteChannel, s.keyless_onChannel id Channel.keyless_stop]
  rcases s.onChannel id Channel.stop with ⟨error | _, s₁⟩
  · rfl
  · simp only [Outcome.veil, keyless, List.eraseP_map]
    rfl

theorem keyless_deleteTemplate (id : String) :
    s.keyless.deleteTemplate id = (s.deleteTemplate id).veil := by
  simp only [deleteTemplate, keyless_template?]
  cases s.template? id with
  | none => rfl
  | some t =>
    simp only
    split_ifs <;> rfl

theorem keyless_applyTemplate (channel template streamKey : String) :
    s.keyless.applyTemplate channel template "" =
      (s.applyTemplate channel template streamKey).veil := by
  simp only [applyTemplate, keyless_template?]
  cases s.template? template with
  | none => rfl
  | some t =>
    refine s.keyless_onChannel channel fun ch c => ?_
    simp only [Channel.applyTemplate, Channel.keyless_addOutput ch t.platform streamKey]
    rfl

theorem keyless_onEach {asks : Channel → Bool} (hasks : ∀ ch, asks ch.keyless = asks ch)
    {operation : Channel → Connection Simulated → Channel.Outcome Simulated Unit}
    {operation' : Channel → Connection Veiled → Channel.Outcome Veiled Unit}
    (hoperation : ∀ ch c, operation' ch.keyless c.veil = (operation ch c).veil)
    (channels : List Channel) (c : Connection Simulated) :
    onEach asks operation' (channels.map Channel.keyless) c.veil =
      ((onEach asks operation channels c).1,
        (onEach asks operation channels c).2.1.map Channel.keyless,
        (onEach asks operation channels c).2.2.veil) := by
  induction channels generalizing c with
  | nil => rfl
  | cons ch rest ih =>
    simp only [List.map_cons, onEach, hasks, hoperation]
    by_cases hch : asks ch
    · simp only [hch, if_true, Channel.Outcome.veil, ih]
      rfl
    · simp only [hch, ih]
      rfl

theorem keyless_bulk {asks : Channel → Bool} (hasks : ∀ ch, asks ch.keyless = asks ch)
    {operation : Channel → Connection Simulated → Channel.Outcome Simulated Unit}
    {operation' : Channel → Connection Veiled → Channel.Outcome Veiled Unit}
    (hoperation : ∀ ch c, operation' ch.keyless c.veil = (operation ch c).veil) :
    s.keyless.bulk asks operation' = (s.bulk asks operation).veil := by
  simp only [bulk, keyless, keyless_onEach hasks hoperation]
  rfl

theorem keyless_tickChannel (now : Instant) (ch : Channel) (c : Connection Simulated) :
    tickChannel now ch.keyless c.veil = Channel.veiledTurn (tickChannel now ch c) := by
  have hdue : ch.keyless.healthCheckDue now = ch.healthCheckDue now := rfl
  have hexpired : ch.keyless.previewTimedOut now = ch.previewTimedOut now := rfl
  simp only [tickChannel, hdue, hexpired, Channel.keyless_status, Channel.keyless_checkHealth,
    Channel.keyless_cancelPreview]
  by_cases hcheck : ch.healthCheckDue now
  · simp only [hcheck, if_true]
    rfl
  · simp only [hcheck, Bool.false_eq_true, if_false]
    rcases ch.cancelPreview c with ⟨error | _, ch₁, c₁⟩
    · simp only [Channel.Outcome.veil]
      split_ifs <;> rfl
    · simp only [Channel.Outcome.veil]
      split_ifs <;> rfl

theorem keyless_tickEach (now : Instant) (channels : List Channel) (c : Connection Simulated) :
    tickEach now (channels.map Channel.keyless) c.veil =
      ((tickEach now channels c).1, (tickEach now channels c).2.1.map Channel.keyless,
        (tickEach now channels c).2.2.veil) := by
  induction channels generalizing c with
  | nil => rfl
  | cons ch rest ih =>
    simp only [List.map_cons, tickEach, keyless_tickChannel, Channel.veiledTurn, ih]

theorem keyless_tick : s.keyless.tick = (s.tick.1, s.tick.2.keyless) := by
  simp only [tick, keyless, Connection.veil_now, keyless_tickEach]

theorem Operation.run_keyless (op : Operation) :
    op.keyless.run s.keyless = (op.run s).veil := by
  cases op with
  | createChannel id name =>
    exact congrArg (Outcome.mk (.ok (Answer.named id))) (s.keyless_createChannel id name)
  | duplicateChannel source id name =>
    exact congrArg (Outcome.answering · _) (s.keyless_duplicateChannel source id name)
  | deleteChannel id => exact congrArg (Outcome.answering · _) (s.keyless_deleteChannel id)
  | onChannel id operation =>
    exact congrArg (Outcome.answering · _)
      (s.keyless_onChannel id fun ch c => operation.run_keyless ch c)
  | startAll =>
    exact congrArg (Outcome.answering · _) (s.keyless_bulk (fun _ => rfl) Channel.keyless_start)
  | stopAll =>
    exact congrArg (Outcome.answering · _) (s.keyless_bulk (fun _ => rfl) Channel.keyless_stop)
  | tick =>
    simp only [Operation.keyless, Operation.run, keyless_tick]
    rfl
  | createTemplate => rfl
  | deleteTemplate id => exact congrArg (Outcome.answering · _) (s.keyless_deleteTemplate id)
  | applyTemplate channel template streamKey =>
    exact congrArg (Outcome.answering · _) (s.keyless_applyTemplate channel template streamKey)

end Studio

end Simulcast
