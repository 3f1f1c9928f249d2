import Simulcast.Channel.Backup

/-!
# Changing many outputs at once

A bulk change goes on past positions that fail, and reports how many of the positions it was given
did.
-/

namespace Simulcast.Channel

def bulkResult (failed total : Nat) : Except ChannelError Unit :=
  if failed = 0 then .ok () else .error (.bulk failed total)

def outside (ch : Channel) (index : Nat) : Bool := ch.outputs.length ≤ index

def changeEach (f : Output → Output) (ch : Channel) (indices : List Nat) : Channel :=
  indices.foldl (fun ch i => ch.changeOutput i f) ch

/-- Enables or disables outputs. Backups are not enabled this way: they go live by failover. -/
def bulkSetEnabled (ch : Channel) (indices : List Nat) (enabled : Bool) :
    Except ChannelError Unit × Channel :=
  (bulkResult (indices.countP ch.outside) indices.length,
   changeEach (fun o => if enabled ∧ o.isBackup then o else { o with enabled }) ch indices)

def bulkSetEncoding (ch : Channel) (indices : List Nat) (encoding : Encoding) :
    Except ChannelError Unit × Channel :=
  (bulkResult (indices.countP ch.outside) indices.length,
   changeEach ({ · with encoding }) ch indices)

/-- The given positions, each once, the highest first. -/
def removalOrder (indices : List Nat) : List Nat := (indices.mergeSort (· ≥ ·)).eraseReps

def removeEach : List Nat → Channel → Nat × Channel
  | [], ch => (0, ch)
  | index :: rest, ch =>
    match ch.removeOutput index with
    | .ok ch => removeEach rest ch
    | .error _ =>
      match removeEach rest ch with
      | (failed, ch) => (failed + 1, ch)

/-- Removes outputs from the highest position down, so that the others keep theirs until it is
their turn. What is named again fails. -/
def bulkRemoveOutputs (ch : Channel) (indices : List Nat) : Except ChannelError Unit × Channel :=
  match ch.ensureStopped "remove outputs" with
  | .error error => (.error error, ch)
  | .ok () =>
    let order := removalOrder indices
    match removeEach order ch with
    | (failed, ch) => (bulkResult (indices.length - order.length + failed) indices.length, ch)

end Simulcast.Channel
