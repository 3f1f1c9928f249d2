import Simulcast.Channel.Backup

/-!
# Reconnecting and failing over

A reconnect issues an output to the process again, up to a number of attempts. A failover puts the
backup on the air before it takes the primary off; restoring goes the other way. Failover happens
by itself when a primary was missing often enough, restoring only when asked for.
-/

namespace Simulcast.Channel

variable {σ : Type} [Service σ]

/-- Issues an output again, and says whether it is back. When the attempts are used up the output
is disabled instead. -/
def reconnectOutput (ch : Channel) (index : Nat) (c : Connection σ) : Outcome σ Bool :=
  match ch.outputs[index]? with
  | none => ⟨.error (ch.noOutput index), ch, c⟩
  | some output =>
    if ch.status ≠ .active then ⟨.error (.invalidState "reconnect" ch.status), ch, c⟩
    else if 0 < ch.reconnect.maxAttempts ∧ ch.reconnect.maxAttempts ≤ output.failures then
      let error := ChannelError.reconnectExhausted index output.failures
      let ch := ch.changeOutput index ({ · with enabled := false, connected := false })
      ⟨.error error, ch.recordError error, c⟩
    else
      match ch.findProcess (c.sleep ch.reconnect.delay) with
      | (.error error, c) => ⟨.ok false, ch.recordError error, c⟩
      | (.ok process, c) =>
        if process.isRunning then
          let pushed := ch.pushed index output
          let c := (c.perform (.removeOutput process.id pushed.id)).connection
          match c.perform (.addOutput process.id pushed) with
          | ⟨.ok (), c⟩ => ⟨.ok true, ch.changeOutput index Output.markConnected, c⟩
          | ⟨.error error, c⟩ => ⟨.ok false, ch.recordError (.remote error), c⟩
        else ⟨.ok false, ch.recordError (.processNotRunning process.state), c⟩

/-- Adds one output to the process, then removes another. Only a failure to add counts; an output
that is there already counts as added. -/
def swapRemote (ch : Channel) (outgoing incoming : Nat) (c : Connection σ) :
    Except ChannelError Unit × Connection σ :=
  match ch.findProcess c with
  | (.error error, c) => (.error error, c)
  | (.ok process, c) =>
    match ch.processOutput? incoming, ch.remoteOutputId? outgoing with
    | none, _ => (.error (ch.noOutput incoming), c)
    | some _, none => (.error (ch.noOutput outgoing), c)
    | some added, some removed =>
      match c.perform (.addOutput process.id added) with
      | ⟨.ok (), c⟩ => (.ok (), (c.perform (.removeOutput process.id removed)).connection)
      | ⟨.error error, c⟩ =>
        if error.isConflict then
          (.ok (), (c.perform (.removeOutput process.id removed)).connection)
        else (.error (.remote error), c)

/-- Swaps outputs on the service when the channel is on the air, and only there. -/
def swapIfActive (ch : Channel) (outgoing incoming : Nat) (c : Connection σ) :
    Except ChannelError Unit × Connection σ :=
  if ch.status = .active then ch.swapRemote outgoing incoming c else (.ok (), c)

def handedOver (since : Nat) (o : Output) : Output :=
  { o with enabled := false, connected := false, failoverActive := true
           failoverStart := some since }

def tookOver (onAir : Bool) (since : Nat) (o : Output) : Output :=
  { o with enabled := true, connected := onAir, failures := 0, failoverActive := true
           failoverStart := some since }

def tookBack (onAir : Bool) (o : Output) : Output :=
  { o with enabled := true, connected := onAir, failures := 0, failoverActive := false
           failoverStart := none }

def handedBack (o : Output) : Output :=
  { o with enabled := false, connected := false, failoverActive := false, failoverStart := none }

def triggerFailover (ch : Channel) (primary : Nat) (c : Connection σ) : Outcome σ Unit :=
  match ch.outputs[primary]? with
  | none => ⟨.error (ch.noOutput primary), ch, c⟩
  | some output =>
    match ch.backupIndex? primary with
    | none => ⟨.error (.noBackup primary), ch, c⟩
    | some backup =>
      if output.failoverActive then ⟨.ok (), ch, c⟩
      else
        match ch.swapIfActive primary backup c with
        | (.error error, c) => ⟨.error error, ch.recordError error, c⟩
        | (.ok (), c) =>
          let since := c.now.unix
          ⟨.ok (),
           (ch.changeOutput primary (handedOver since)).changeOutput backup
             (tookOver ch.isActive since), c⟩

def restorePrimary (ch : Channel) (primary : Nat) (c : Connection σ) : Outcome σ Unit :=
  match ch.outputs[primary]? with
  | none => ⟨.error (ch.noOutput primary), ch, c⟩
  | some output =>
    match ch.backupIndex? primary with
    | none => ⟨.error (.noBackup primary), ch, c⟩
    | some backup =>
      if output.failoverActive then
        match ch.swapIfActive backup primary c with
        | (.error error, c) => ⟨.error error, ch.recordError error, c⟩
        | (.ok (), c) =>
          ⟨.ok (),
           (ch.changeOutput primary (tookBack ch.isActive)).changeOutput backup handedBack, c⟩
      else ⟨.error (.noActiveFailover primary), ch, c⟩

/-- A primary that was missed often enough and has not failed over yet. -/
def needsFailover (threshold : Nat) (o : Output) : Bool :=
  o.backup.isSome && !o.isBackup && !o.failoverActive && !o.connected && threshold ≤ o.failures

def failoverThreshold (ch : Channel) : Nat := max ch.health.threshold 1

def failoverCandidates (ch : Channel) : List Nat :=
  (List.range ch.outputs.length).filter fun i =>
    (ch.outputs[i]?.map (needsFailover ch.failoverThreshold)).getD false

def failoverEach : List Nat → Channel → Connection σ → Nat × Channel × Connection σ
  | [], ch, c => (0, ch, c)
  | index :: rest, ch, c =>
    match ch.triggerFailover index c with
    | ⟨result, ch, c⟩ =>
      match failoverEach rest ch c with
      | (n, ch, c) => ((match result with | .ok () => n + 1 | .error _ => n), ch, c)

def checkFailover (ch : Channel) (c : Connection σ) : Nat × Channel × Connection σ :=
  if ch.status = .active then failoverEach ch.failoverCandidates ch c else (0, ch, c)

end Simulcast.Channel
