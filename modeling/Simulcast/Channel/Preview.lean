import Simulcast.Channel.Lifecycle

/-!
# Previews

A preview runs the process of a channel for a while before the channel goes live. It can go live,
be cancelled, or time out. When the cancellation fails the channel is in error but still in
preview, and cancelling again is allowed.
-/

namespace Simulcast.Channel

def isPreviewing (ch : Channel) : Bool := ch.preview.isSome

def previewSecs (ch : Channel) : Nat := (ch.preview.map (·.secs)).getD 0

def previewStart (ch : Channel) : Nat := (ch.preview.map (·.startedAt)).getD 0

/-- A preview that may time out, with the seconds it has run. -/
def timedPreview? (ch : Channel) (now : Instant) : Option (Nat × Nat) :=
  match ch.preview with
  | none => none
  | some p => if p.secs = 0 then none else some (p.secs, now.unix - p.startedAt)

/-- Running for the whole time already counts as timed out. -/
def previewTimedOut (ch : Channel) (now : Instant) : Bool :=
  match ch.timedPreview? now with
  | none => false
  | some (secs, elapsed) => secs ≤ elapsed

def previewRemaining? (ch : Channel) (now : Instant) : Option Duration :=
  (ch.timedPreview? now).map fun (secs, elapsed) => .ofSecs (secs - elapsed)

def goLive (ch : Channel) : Except ChannelError Channel :=
  if ch.status = .preview then
    .ok { ch with preview := none, lastError := none, status := .active }
  else .error (.invalidState "go live" ch.status)

variable {σ : Type} [Service σ]

def startPreview (ch : Channel) (duration : Duration) (c : Connection σ) : Outcome σ Unit :=
  if ch.status = .inactive then
    let preview : Preview := { secs := duration.secs, startedAt := c.now.unix }
    match ch.startRemote c with
    | ⟨.error error, ch, c⟩ => ⟨.error error, { ch with preview := none }, c⟩
    | ⟨.ok (), ch, c⟩ => ⟨.ok (), { ch with preview := some preview, status := .preview }, c⟩
  else ⟨.error (.invalidState "start preview" ch.status), ch, c⟩

def cancelPreview (ch : Channel) (c : Connection σ) : Outcome σ Unit :=
  if ch.status = .preview ∨ (ch.status = .error ∧ ch.isPreviewing) then ch.stopRemote c
  else ⟨.error (.invalidState "cancel preview" ch.status), ch, c⟩

end Simulcast.Channel
