import Simulcast.Channel.Basic

/-!
# Backup links

An output may have one backup and be the backup of one output. A link is kept at both ends, and no
chain of backups leads back to where it began.
-/

namespace Simulcast.Channel

def backupIndex? (ch : Channel) (index : Nat) : Option Nat :=
  (ch.outputs[index]?.bind (·.backup)).bind ch.position?

def primaryIndex? (ch : Channel) (index : Nat) : Option Nat :=
  (ch.outputs[index]?.bind (·.primary)).bind ch.position?

def backupOf? (ch : Channel) (id : OutputId) : Option OutputId :=
  (ch.outputs.find? (·.id == id)).bind (·.backup)

/-- Whether the chain of backups from an output meets the target. A chain that does not end within
so many steps goes round, and counts as meeting everything. -/
def chainMeets (ch : Channel) (target : OutputId) : (steps : Nat) → OutputId → Bool
  | 0, _ => true
  | n + 1, id =>
    id == target || match ch.backupOf? id with
      | none => false
      | some next => ch.chainMeets target n next

/-- Links two outputs; the former backup of the one and the former primary of the other are let
go. -/
def link (ch : Channel) (primary backup : Nat) (primaryId backupId : OutputId) : Channel :=
  let ch := match ch.backupIndex? primary with
    | some old => ch.changeOutput old ({ · with primary := none })
    | none => ch
  let ch := match ch.primaryIndex? backup with
    | some old => ch.changeOutput old ({ · with backup := none })
    | none => ch
  (ch.changeOutput primary ({ · with backup := some backupId })).changeOutput backup
    ({ · with primary := some primaryId })

def setOutputBackup (ch : Channel) (primary backup : Nat) : Except ChannelError Channel :=
  match ch.outputs[primary]?, ch.outputs[backup]? with
  | none, _ => .error (ch.noOutput primary)
  | some _, none => .error (ch.noOutput backup)
  | some p, some b =>
    if primary = backup then .error (.selfBackup primary)
    else if p.backup = some b.id then .ok ch
    else if ch.chainMeets p.id ch.outputs.length b.id then .error (.backupCycle primary backup)
    else .ok (ch.link primary backup p.id b.id)

def removeOutputBackup (ch : Channel) (primary : Nat) : Except ChannelError Channel :=
  if primary < ch.outputs.length then
    match ch.backupIndex? primary with
    | none => .error (.noBackup primary)
    | some backup =>
      let released := ch.changeOutput primary ({ · with backup := none, failoverActive := false })
      .ok (released.changeOutput backup ({ · with primary := none, failoverActive := false }))
  else .error (ch.noOutput primary)

end Simulcast.Channel
