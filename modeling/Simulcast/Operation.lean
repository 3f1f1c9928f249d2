import Simulcast.Studio

/-!
# Operations as values

What a channel or a studio can be asked to do, as one type each, so that a run is a list of them.
`run` performs an operation; its answer is whatever the operation returns besides the channel or the
studio it leaves.
-/

namespace Simulcast

/-- What an operation on a channel returns when it succeeds. -/
inductive Channel.Answer where
  | nothing
  | flag (value : Bool)
  | number (value : Nat)
  deriving DecidableEq

namespace Channel

inductive Operation where
  | rename (name : String)
  | setInputUrl (url : String)
  | setOrientation (orientation : Orientation)
  | setDimensions (width height : Nat)
  | setAutoStart (enabled : Bool)
  | setReconnect (policy : ReconnectPolicy)
  | setHealth (policy : HealthPolicy)
  | setHealthMonitoring (enabled : Bool) (defaults : HealthDefaults)
  | addOutput (platform : Platform) (streamKey : String) (orientation : Orientation)
      (encoding : Encoding)
  | removeOutput (index : Nat)
  | setOutputEnabled (index : Nat) (enabled : Bool)
  | setOutputEncoding (index : Nat) (encoding : Encoding)
  | setOutputAutoReconnect (index : Nat) (enabled : Bool)
  | setOutputStreamKey (index : Nat) (streamKey : String)
  | setOutputUrl (index : Nat) (url : Option String)
  | setOutputBackup (primary backup : Nat)
  | removeOutputBackup (primary : Nat)
  | bulkSetEnabled (indices : List Nat) (enabled : Bool)
  | bulkRemoveOutputs (indices : List Nat)
  | bulkSetEncoding (indices : List Nat) (encoding : Encoding)
  | setEncodingLive (index : Nat) (encoding : Encoding)
  | bulkStartOutputs (indices : List Nat)
  | bulkStopOutputs (indices : List Nat)
  | reconnectOutput (index : Nat)
  | triggerFailover (primary : Nat)
  | restorePrimary (primary : Nat)
  | checkFailover
  | checkHealth
  | start
  | stop
  | restart
  | startPreview (duration : Duration)
  | goLive
  | cancelPreview

variable {σ : Type}

namespace Outcome

def answering (o : Outcome σ α) (answer : α → Answer) : Outcome σ Answer :=
  ⟨o.result.map answer, o.channel, o.connection⟩

def changed (ch : Channel) (c : Connection σ) : Outcome σ Answer := ⟨.ok .nothing, ch, c⟩

def edited (ch : Channel) (edit : Except ChannelError Channel) (c : Connection σ) :
    Outcome σ Answer :=
  match edit with
  | .ok ch => changed ch c
  | .error error => ⟨.error error, ch, c⟩

/-- A change that is reported on after it happened. -/
def reported (change : Except ChannelError Unit × Channel) (c : Connection σ) : Outcome σ Answer :=
  ⟨change.1.map fun _ => .nothing, change.2, c⟩

end Outcome

open Outcome

variable [Service σ]

def Operation.run (op : Operation) (ch : Channel) (c : Connection σ) : Outcome σ Answer :=
  match op with
  | .rename name => changed (ch.rename name) c
  | .setInputUrl url => changed (ch.setInputUrl url) c
  | .setOrientation orientation => changed (ch.setOrientation orientation) c
  | .setDimensions width height => changed (ch.setDimensions width height) c
  | .setAutoStart enabled => changed { ch with autoStart := enabled } c
  | .setReconnect policy => changed { ch with reconnect := policy } c
  | .setHealth policy => changed { ch with health := policy } c
  | .setHealthMonitoring enabled defaults => changed (ch.setHealthMonitoring enabled defaults) c
  | .addOutput platform streamKey orientation encoding =>
    match ch.addOutput platform streamKey orientation encoding with
    | (index, ch) => ⟨.ok (.number index), ch, c⟩
  | .removeOutput index => edited ch (ch.removeOutput index) c
  | .setOutputEnabled index enabled => edited ch (ch.setOutputEnabled index enabled) c
  | .setOutputEncoding index encoding => edited ch (ch.setOutputEncoding index encoding) c
  | .setOutputAutoReconnect index enabled => edited ch (ch.setOutputAutoReconnect index enabled) c
  | .setOutputStreamKey index streamKey => edited ch (ch.setOutputStreamKey index streamKey) c
  | .setOutputUrl index url => edited ch (ch.setOutputUrl index url) c
  | .setOutputBackup primary backup => edited ch (ch.setOutputBackup primary backup) c
  | .removeOutputBackup primary => edited ch (ch.removeOutputBackup primary) c
  | .bulkSetEnabled indices enabled => reported (ch.bulkSetEnabled indices enabled) c
  | .bulkRemoveOutputs indices => reported (ch.bulkRemoveOutputs indices) c
  | .bulkSetEncoding indices encoding => reported (ch.bulkSetEncoding indices encoding) c
  | .setEncodingLive index encoding =>
    (ch.setEncodingLive index encoding c).answering fun _ => .nothing
  | .bulkStartOutputs indices => (ch.bulkStartOutputs indices c).answering fun _ => .nothing
  | .bulkStopOutputs indices => (ch.bulkStopOutputs indices c).answering fun _ => .nothing
  | .reconnectOutput index => (ch.reconnectOutput index c).answering .flag
  | .triggerFailover primary => (ch.triggerFailover primary c).answering fun _ => .nothing
  | .restorePrimary primary => (ch.restorePrimary primary c).answering fun _ => .nothing
  | .checkFailover =>
    match ch.checkFailover c with
    | (count, ch, c) => ⟨.ok (.number count), ch, c⟩
  | .checkHealth =>
    match ch.checkHealth c with
    | (healthy, ch, c) => ⟨.ok (.flag healthy), ch, c⟩
  | .start => (ch.start c).answering fun _ => .nothing
  | .stop => (ch.stop c).answering fun _ => .nothing
  | .restart => (ch.restart c).answering fun _ => .nothing
  | .startPreview duration => (ch.startPreview duration c).answering fun _ => .nothing
  | .goLive => edited ch ch.goLive c
  | .cancelPreview => (ch.cancelPreview c).answering fun _ => .nothing

end Channel

/-- What an operation on a studio returns when it succeeds. -/
inductive Studio.Answer where
  | nothing
  | channel (answer : Channel.Answer)
  | named (id : String)
  | report (report : TickReport)
  deriving DecidableEq

namespace Studio

/-- New ids are part of the operations that need them. -/
inductive Operation where
  | createChannel (id name : String)
  | duplicateChannel (source id name : String)
  | deleteChannel (id : String)
  | onChannel (id : String) (operation : Channel.Operation)
  | startAll
  | stopAll
  | tick
  | createTemplate (id name : String) (platform : Platform) (orientation : Orientation)
      (encoding : Encoding)
  | deleteTemplate (id : String)
  | applyTemplate (channel template streamKey : String)

variable {σ : Type}

def Outcome.answering (o : Outcome σ α) (answer : α → Answer) : Outcome σ Answer :=
  ⟨o.result.map answer, o.studio⟩

variable [Service σ]

def Operation.run (op : Operation) (s : Studio σ) : Outcome σ Answer :=
  match op with
  | .createChannel id name => ⟨.ok (.named id), s.createChannel id name⟩
  | .duplicateChannel source id name => (s.duplicateChannel source id name).answering .named
  | .deleteChannel id => (s.deleteChannel id).answering fun _ => .nothing
  | .onChannel id operation => (s.onChannel id operation.run).answering .channel
  | .startAll => s.startAll.answering fun _ => .nothing
  | .stopAll => s.stopAll.answering fun _ => .nothing
  | .tick =>
    match s.tick with
    | (report, s) => ⟨.ok (.report report), s⟩
  | .createTemplate id name platform orientation encoding =>
    ⟨.ok (.named id),
     s.createTemplate { id, name, platform, orientation, encoding, builtin := false }⟩
  | .deleteTemplate id => (s.deleteTemplate id).answering fun _ => .nothing
  | .applyTemplate channel template streamKey =>
    (s.applyTemplate channel template streamKey).answering fun index => .channel (.number index)

end Studio

end Simulcast
