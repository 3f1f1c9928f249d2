import Simulcast.Channel.Error
import Simulcast.Output
import Simulcast.Session

/-!
# Channels

A channel takes one input and pushes it to several outputs by way of one process of the service.
Outputs are addressed by position, and the service knows an output by its platform and position.
Operations on a channel alone are here; those that talk to the service return the channel and the
connection they leave along with their result.
-/

namespace Simulcast

structure ReconnectPolicy where
  /-- Whether outputs that join the channel are repaired without being asked. -/
  autoReconnect : Bool := false
  delay : Duration := .zero
  /-- Zero stands for no limit. -/
  maxAttempts : Nat := 0
  deriving DecidableEq

/-- How often and how strictly outputs are watched. -/
structure HealthPolicy where
  enabled : Bool := false
  interval : Duration := .zero
  threshold : Nat := 0
  deriving DecidableEq

/-- What monitoring starts out with when it is switched on for the first time. -/
structure HealthDefaults where
  interval : Duration := .ofSecs 30
  threshold : Nat := 3
  maxAttempts : Nat := 5
  delay : Duration := .ofSecs 5
  deriving DecidableEq

/-- A timed trial run; zero seconds never time out. -/
structure Preview where
  secs : Nat
  /-- In seconds since the epoch. -/
  startedAt : Nat
  deriving DecidableEq

def defaultInputUrl : String := "rtmp://localhost/live/obs_input"

structure Channel where
  id : String
  name : String
  status : Status := .inactive
  inputUrl : String := defaultInputUrl
  orientation : Orientation := .auto
  /-- Whether the orientation follows the frame size. -/
  autoDetect : Bool := true
  width : Nat := 0
  height : Nat := 0
  /-- The reference under which the service knows the process of the channel. -/
  processReference : Option String := none
  outputs : List Output := []
  /-- Counts without an end. Where an id has thirty-two bits this is the channel that is given fewer
  than 2 ^ 32 outputs. -/
  nextOutput : Nat := 0
  autoStart : Bool := false
  reconnect : ReconnectPolicy := {}
  health : HealthPolicy := {}
  lastCheck : Option Instant := none
  preview : Option Preview := none
  lastError : Option String := none
  deriving DecidableEq

namespace Channel

/-- What an operation comes back with, and what it leaves of the channel and the connection. -/
structure Outcome (σ α : Type) where
  result : Except ChannelError α
  channel : Channel
  connection : Connection σ

/-- A channel with the same configuration under another identity, inactive and without history. -/
def duplicate (ch : Channel) (id name : String) : Channel :=
  { ch with
    id, name
    status := .inactive
    processReference := none
    lastError := none
    lastCheck := none
    preview := none
    outputs := ch.outputs.map Output.fresh }

def isActive (ch : Channel) : Bool := ch.status == .active

def rename (ch : Channel) (name : String) : Channel := { ch with name }

def setInputUrl (ch : Channel) (url : String) : Channel := { ch with inputUrl := Text.trim url }

def setOrientation (ch : Channel) (orientation : Orientation) : Channel :=
  { ch with orientation, autoDetect := orientation == .auto }

def setDimensions (ch : Channel) (width height : Nat) : Channel :=
  { ch with
    width, height
    orientation := if ch.autoDetect then .detect width height else ch.orientation }

def enabledCount (ch : Channel) : Nat := ch.outputs.countP (·.enabled)

def recordError (ch : Channel) (error : ChannelError) : Channel :=
  { ch with lastError := some error.message }

def position? (ch : Channel) (id : OutputId) : Option Nat := ch.outputs.findIdx? (·.id == id)

def changeOutput (ch : Channel) (index : Nat) (f : Output → Output) : Channel :=
  { ch with outputs := ch.outputs.modify index f }

def changeOutputs (ch : Channel) (f : Output → Output) : Channel :=
  { ch with outputs := ch.outputs.map f }

def noOutput (ch : Channel) (index : Nat) : ChannelError :=
  .invalidOutputIndex index ch.outputs.length

def editOutput (ch : Channel) (index : Nat) (f : Output → Output) : Except ChannelError Channel :=
  if index < ch.outputs.length then .ok (ch.changeOutput index f) else .error (ch.noOutput index)

/-- Outputs are addressed by position on the service too, so the list keeps its shape as long as a
process may be running. -/
def ensureStopped (ch : Channel) (operation : String) : Except ChannelError Unit :=
  if ch.status = .inactive ∨ ch.status = .error then .ok ()
  else .error (.invalidState operation ch.status)

/-! ### Outputs -/

def addOutput (ch : Channel) (platform : Platform) (streamKey : String)
    (orientation : Orientation) (encoding : Encoding) : Nat × Channel :=
  let output : Output :=
    { id := ⟨ch.nextOutput⟩, platform, streamKey, orientation, encoding
      autoReconnect := ch.reconnect.autoReconnect }
  (ch.outputs.length,
   { ch with nextOutput := ch.nextOutput + 1, outputs := ch.outputs ++ [output] })

def unlink (id : OutputId) (o : Output) : Output :=
  let linked := o.backup == some id || o.primary == some id
  { o with
    backup := if o.backup = some id then none else o.backup
    primary := if o.primary = some id then none else o.primary
    failoverActive := o.failoverActive && !linked }

/-- Takes the output at a position out of the list; links to it are cleared. -/
def dropOutput (ch : Channel) (index : Nat) : Channel :=
  match ch.outputs[index]? with
  | none => ch
  | some removed =>
    { ch with outputs := (ch.outputs.eraseIdx index).map (unlink removed.id) }

def removeOutput (ch : Channel) (index : Nat) : Except ChannelError Channel :=
  match ch.ensureStopped "remove output" with
  | .error error => .error error
  | .ok () =>
    if index < ch.outputs.length then .ok (ch.dropOutput index) else .error (ch.noOutput index)

def setOutputEnabled (ch : Channel) (index : Nat) (enabled : Bool) : Except ChannelError Channel :=
  ch.editOutput index ({ · with enabled })

def setOutputEncoding (ch : Channel) (index : Nat) (encoding : Encoding) :
    Except ChannelError Channel :=
  ch.editOutput index ({ · with encoding })

def setOutputAutoReconnect (ch : Channel) (index : Nat) (enabled : Bool) :
    Except ChannelError Channel :=
  ch.editOutput index ({ · with autoReconnect := enabled })

def setOutputStreamKey (ch : Channel) (index : Nat) (streamKey : String) :
    Except ChannelError Channel :=
  ch.editOutput index ({ · with streamKey })

def setOutputUrl (ch : Channel) (index : Nat) (url : Option String) :
    Except ChannelError Channel :=
  ch.editOutput index (·.withUrl url)

/-- Switches monitoring. A channel that was never monitored takes the defaults over first. -/
def setHealthMonitoring (ch : Channel) (enabled : Bool) (defaults : HealthDefaults) : Channel :=
  let ch :=
    if enabled ∧ ch.health.interval = .zero then
      { ch with
        health := { ch.health with interval := defaults.interval, threshold := defaults.threshold }
        reconnect :=
          { ch.reconnect with
            maxAttempts := defaults.maxAttempts
            delay :=
              if ch.reconnect.delay = .zero then defaults.delay else ch.reconnect.delay } }
    else ch
  { ch with
    health := { ch.health with enabled }
    reconnect := { ch.reconnect with autoReconnect := enabled }
    outputs := ch.outputs.map ({ · with autoReconnect := enabled }) }

/-! ### What the service is told -/

def remoteId (platform : Platform) (index : Nat) : String := platform.name ++ "_" ++ toString index

def remoteOutputId? (ch : Channel) (index : Nat) : Option String :=
  ch.outputs[index]?.map fun o => remoteId o.platform index

def sourceOrientation (ch : Channel) : Orientation :=
  if ch.autoDetect ∧ 0 < ch.width ∧ 0 < ch.height then .detect ch.width ch.height
  else ch.orientation

def pushed (ch : Channel) (index : Nat) (o : Output) : ProcessOutput where
  id := remoteId o.platform index
  url := o.pushUrl
  videoFilter := Orientation.videoFilter? ch.sourceOrientation o.orientation
  options := o.encoding.options

def processOutput? (ch : Channel) (index : Nat) : Option ProcessOutput :=
  ch.outputs[index]?.map (ch.pushed index)

/-- The enabled outputs, in order, under the positions they have. -/
def enabledOutputs (ch : Channel) : List ProcessOutput :=
  ch.outputs.zipIdx.filterMap fun (o, i) => if o.enabled then some (ch.pushed i o) else none

def processConfig (ch : Channel) : ProcessConfig where
  reference := ch.id
  inputUrl := ch.inputUrl
  outputs := ch.enabledOutputs

variable {σ : Type} [Service σ]

def findProcess (ch : Channel) (c : Connection σ) :
    Except ChannelError ProcessInfo × Connection σ :=
  match ch.processReference with
  | none => (.error .missingProcessReference, c)
  | some reference =>
    match c.findProcess reference with
    | ⟨.error error, c⟩ => (.error (.remote error), c)
    | ⟨.ok none, c⟩ => (.error (.processNotFound reference), c)
    | ⟨.ok (some process), c⟩ => (.ok process, c)

end Channel

end Simulcast
