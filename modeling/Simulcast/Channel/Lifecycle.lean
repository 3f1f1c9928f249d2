import Simulcast.Channel.Basic

/-!
# Starting and stopping

A channel that starts creates its process and starts it; one that stops takes its process down, and
a process that is gone counts as stopped. Any failure leaves the channel in the error state with
the failure recorded. What a failed stop left behind is taken down before the next start.
-/

namespace Simulcast.Channel

variable {σ : Type}

def fail (ch : Channel) (error : ChannelError) (c : Connection σ) : Outcome σ Unit :=
  ⟨.error error, { ch with status := .error }.recordError error, c⟩

variable [Service σ]

/-- Stops and deletes the process of the channel. A process that cannot be deleted once it is
stopped is left alone. -/
def teardown (ch : Channel) (c : Connection σ) : Except ChannelError Unit × Connection σ :=
  match ch.processReference with
  | none => (.ok (), c)
  | some reference =>
    match c.findProcess reference with
    | ⟨.error error, c⟩ => (.error (.remote error), c)
    | ⟨.ok none, c⟩ => (.ok (), c)
    | ⟨.ok (some process), c⟩ =>
      match c.perform (.command process.id .stop) with
      | ⟨.error error, c⟩ => (if error.isNotFound then .ok () else .error (.remote error), c)
      | ⟨.ok (), c⟩ => (.ok (), (c.perform (.deleteProcess process.id)).connection)

/-- The channel once its process runs. Failovers stay in effect. -/
def started (ch : Channel) (reference : String) : Channel :=
  { ch with
    processReference := some reference
    lastError := none
    lastCheck := none
    outputs := ch.outputs.map ({ · with connected := false, failures := 0, lastCheck := none }) }

/-- Creates the process and starts it; a process that does not start is deleted again. -/
def launch (ch : Channel) (c : Connection σ) : Outcome σ Unit :=
  match c.perform (.createProcess ch.processConfig) with
  | ⟨.error error, c⟩ => ch.fail (.remote error) c
  | ⟨.ok id, c⟩ =>
    match c.perform (.command id .start) with
    | ⟨.error error, c⟩ => ch.fail (.remote error) (c.perform (.deleteProcess id)).connection
    | ⟨.ok (), c⟩ => ⟨.ok (), ch.started ch.id, c⟩

def startRemote (ch : Channel) (c : Connection σ) : Outcome σ Unit :=
  if ch.enabledCount = 0 then ch.fail .noEnabledOutputs c
  else if ch.inputUrl = "" then ch.fail .missingInputUrl c
  else
    match ch.teardown c with
    | (.error error, c) => ch.fail error c
    | (.ok (), c) => launch { ch with processReference := none, status := .starting } c

def start (ch : Channel) (c : Connection σ) : Outcome σ Unit :=
  match ch.status with
  | .active => ⟨.ok (), ch, c⟩
  | .inactive | .error =>
    match ch.startRemote c with
    | ⟨.error error, ch, c⟩ => ⟨.error error, ch, c⟩
    | ⟨.ok (), ch, c⟩ => ⟨.ok (), { ch with status := .active }, c⟩
  | status => ⟨.error (.invalidState "start" status), ch, c⟩

def stopped (ch : Channel) : Channel :=
  { ch with
    processReference := none
    lastError := none
    lastCheck := none
    preview := none
    outputs := ch.outputs.map ({ · with connected := false })
    status := .inactive }

def stopRemote (ch : Channel) (c : Connection σ) : Outcome σ Unit :=
  let ch := { ch with status := .stopping }
  match ch.teardown c with
  | (.error error, c) => ch.fail error c
  | (.ok (), c) => ⟨.ok (), ch.stopped, c⟩

def stop (ch : Channel) (c : Connection σ) : Outcome σ Unit :=
  match ch.status with
  | .inactive => ⟨.ok (), ch, c⟩
  | .active | .preview | .error => ch.stopRemote c
  | status => ⟨.error (.invalidState "stop" status), ch, c⟩

def restart (ch : Channel) (c : Connection σ) : Outcome σ Unit :=
  match ch.stop c with
  | ⟨.error error, ch, c⟩ => ⟨.error error, ch, c⟩
  | ⟨.ok (), ch, c⟩ => ch.start c

end Simulcast.Channel
