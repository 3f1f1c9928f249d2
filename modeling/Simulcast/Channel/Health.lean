import Simulcast.Channel.Failover

/-!
# Health passes

A pass compares the outputs a channel expects with those its process has. An enabled output that is
missing has its counter raised, and once the counter reaches the threshold it is reconnected within
the same pass. A process that is not running has no outputs and is never healthy.
-/

namespace Simulcast.Channel

/-- Whether a pass is due; a clock that went back makes none due. -/
def healthCheckDue (ch : Channel) (now : Instant) : Bool :=
  ch.isActive && ch.health.enabled &&
    match ch.lastCheck with
    | none => true
    | some last => last ≤ now && ch.health.interval ≤ now.since last

variable {σ : Type} [Service σ]

/-- Looks at the output at one position. `present` holds the ids that the process has. -/
def inspectOutput (present : List String) (checkedAt index : Nat) (ch : Channel)
    (c : Connection σ) : Channel × Connection σ :=
  match ch.outputs[index]? with
  | none => (ch, c)
  | some output =>
    if output.enabled then
      if remoteId output.platform index ∈ present then
        (ch.changeOutput index fun o => { o with lastCheck := some checkedAt }.markConnected, c)
      else
        let missing := { output with lastCheck := some checkedAt }.markMissing
        let ch := ch.changeOutput index fun _ => missing
        if ch.health.threshold ≤ missing.failures ∧ missing.autoReconnect then
          let outcome := ch.reconnectOutput index c
          (outcome.channel, outcome.connection)
        else (ch, c)
    else (ch, c)

def inspectEach (present : List String) (checkedAt : Nat) :
    List Nat → Channel → Connection σ → Channel × Connection σ
  | [], ch, c => (ch, c)
  | index :: rest, ch, c =>
    match inspectOutput present checkedAt index ch c with
    | (ch, c) => inspectEach present checkedAt rest ch c

def allConnected (ch : Channel) : Bool := ch.outputs.all fun o => !o.enabled || o.connected

def inspectAll (ch : Channel) (checkedAt : Nat) (running : Bool) (present : List String)
    (c : Connection σ) : Bool × Channel × Connection σ :=
  match inspectEach present checkedAt (List.range ch.outputs.length) ch c with
  | (ch, c) => (running && ch.allConnected, ch, c)

/-- One pass over an active, monitored channel at `now`. -/
def healthPass (ch : Channel) (now : Instant) (c : Connection σ) : Bool × Channel × Connection σ :=
  let ch := { ch with lastCheck := some now }
  match ch.findProcess c with
  | (.error error, c) => (false, ch.recordError error, c)
  | (.ok process, c) =>
    if process.isRunning then
      match c.perform (.getOutputs process.id) with
      | ⟨.error error, c⟩ => (false, ch.recordError (.remote error), c)
      | ⟨.ok present, c⟩ => ch.inspectAll now.unix true present c
    else ch.inspectAll now.unix false [] c

/-- Whether the channel is healthy. One that is not active or not monitored always is. -/
def checkHealth (ch : Channel) (c : Connection σ) : Bool × Channel × Connection σ :=
  if ch.status = .active ∧ ch.health.enabled then ch.healthPass c.now c else (true, ch, c)

end Simulcast.Channel
