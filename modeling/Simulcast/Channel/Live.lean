import Simulcast.Channel.Bulk

/-!
# Changes on the air

Outputs of a running process are replaced, put on the air and taken off it one by one. The local
record of an output changes only when the service went along.
-/

namespace Simulcast.Channel

variable {σ : Type} [Service σ]

def replaceRemote (ch : Channel) (index : Nat) (c : Connection σ) :
    Except ChannelError Unit × Connection σ :=
  match ch.findProcess c with
  | (.error error, c) => (.error error, c)
  | (.ok process, c) =>
    match ch.processOutput? index with
    | none => (.error (ch.noOutput index), c)
    | some output =>
      match c.perform (.removeOutput process.id output.id) with
      | ⟨.ok (), c⟩ => add process.id output c
      | ⟨.error error, c⟩ =>
        if error.isNotFound then add process.id output c else (.error (.remote error), c)
where
  add (id : String) (output : ProcessOutput) (c : Connection σ) :
      Except ChannelError Unit × Connection σ :=
    match c.perform (.addOutput id output) with
    | ⟨.ok (), c⟩ => (.ok (), c)
    | ⟨.error error, c⟩ => (.error (.remote error), c)

/-- Changes the profile of an output. The new profile is kept only if the process took it; an
output that is off the air just keeps it. -/
def setEncodingLive (ch : Channel) (index : Nat) (encoding : Encoding) (c : Connection σ) :
    Outcome σ Unit :=
  match ch.outputs[index]? with
  | none => ⟨.error (ch.noOutput index), ch, c⟩
  | some output =>
    if ch.status ≠ .active then
      ⟨.error (.invalidState "update encoding live" ch.status), ch, c⟩
    else
      let changed := ch.changeOutput index ({ · with encoding })
      if output.enabled then
        match changed.replaceRemote index c with
        | (.error error, c) => ⟨.error error, ch.recordError error, c⟩
        | (.ok (), c) => ⟨.ok (), changed.changeOutput index Output.markConnected, c⟩
      else ⟨.ok (), changed, c⟩

/-- Does something at each position in turn and counts the failures. -/
def tally (step : Nat → Channel → Connection σ → Bool × Channel × Connection σ) :
    List Nat → Channel → Connection σ → Nat × Channel × Connection σ
  | [], ch, c => (0, ch, c)
  | index :: rest, ch, c =>
    match step index ch c with
    | (failed, ch, c) =>
      match tally step rest ch c with
      | (n, ch, c) => (n + failed.toNat, ch, c)

/-- Looks the process up, does something at each position, and reports the failures. -/
def bulkLive (operation : String)
    (step : String → Nat → Channel → Connection σ → Bool × Channel × Connection σ)
    (ch : Channel) (indices : List Nat) (c : Connection σ) : Outcome σ Unit :=
  if ch.status ≠ .active then ⟨.error (.invalidState operation ch.status), ch, c⟩
  else
    match ch.findProcess c with
    | (.error error, c) => ⟨.error error, ch.recordError error, c⟩
    | (.ok process, c) =>
      match tally (step process.id) indices ch c with
      | (failed, ch, c) => ⟨bulkResult failed indices.length, ch, c⟩

/-- Puts one output on the air, and says whether that failed. An enabled output is on the air
already, a backup may not go there, and an output the process already has counts as started. -/
def startOutput (id : String) (index : Nat) (ch : Channel) (c : Connection σ) :
    Bool × Channel × Connection σ :=
  match ch.outputs[index]? with
  | none => (true, ch, c)
  | some output =>
    if output.enabled then (false, ch, c)
    else if output.isBackup then (true, ch, c)
    else
      let onAir := ch.changeOutput index fun o => { o with enabled := true }.markConnected
      match c.perform (.addOutput id (ch.pushed index output)) with
      | ⟨.ok (), c⟩ => (false, onAir, c)
      | ⟨.error error, c⟩ =>
        if error.isConflict then (false, onAir, c)
        else (true, ch.recordError (.remote error), c)

def bulkStartOutputs (ch : Channel) (indices : List Nat) (c : Connection σ) : Outcome σ Unit :=
  bulkLive "start outputs" startOutput ch indices c

/-- Takes one output off the air, and says whether that failed. An output that the process does
not have counts as stopped. -/
def stopOutput (id : String) (index : Nat) (ch : Channel) (c : Connection σ) :
    Bool × Channel × Connection σ :=
  match ch.outputs[index]? with
  | none => (true, ch, c)
  | some output =>
    if output.enabled then
      let offAir := ch.changeOutput index ({ · with enabled := false, connected := false })
      match c.perform (.removeOutput id (remoteId output.platform index)) with
      | ⟨.ok (), c⟩ => (false, offAir, c)
      | ⟨.error error, c⟩ =>
        if error.isNotFound then (false, offAir, c)
        else (true, ch.recordError (.remote error), c)
    else (false, ch, c)

def bulkStopOutputs (ch : Channel) (indices : List Nat) (c : Connection σ) : Outcome σ Unit :=
  bulkLive "stop outputs" stopOutput ch indices c

end Simulcast.Channel
