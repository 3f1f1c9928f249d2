import Simulcast.Operation

/-!
# Abandoned processes

An operation abandons the process of a channel when it lets go of a process that the service failed
to delete. Whether it does is read off the answers that the operation itself gets.
-/

namespace Simulcast

variable {σ : Type} [Service σ]

namespace Channel

/-- Whether the process is stopped and let go of, although deleting it failed. -/
def teardownAbandons (ch : Channel) (c : Connection σ) : Bool :=
  match ch.processReference with
  | none => false
  | some reference =>
    match c.findProcess reference with
    | ⟨.ok (some process), c⟩ =>
      match c.perform (.command process.id .stop) with
      | ⟨.ok (), c⟩ => !(c.perform (.deleteProcess process.id)).result.isOk
      | ⟨.error _, _⟩ => false
    | _ => false

/-- Whether a process is created that neither starts nor can be deleted. -/
def launchAbandons (ch : Channel) (c : Connection σ) : Bool :=
  match c.perform (.createProcess ch.processConfig) with
  | ⟨.error _, _⟩ => false
  | ⟨.ok id, c⟩ =>
    match c.perform (.command id .start) with
    | ⟨.error _, c⟩ => !(c.perform (.deleteProcess id)).result.isOk
    | ⟨.ok (), _⟩ => false

def startRemoteAbandons (ch : Channel) (c : Connection σ) : Bool :=
  if ch.enabledCount = 0 then false
  else if ch.inputUrl = "" then false
  else
    match ch.teardown c with
    | (.error _, _) => false
    | (.ok (), after) => ch.teardownAbandons c ||
        launchAbandons { ch with processReference := none, status := .starting } after

def startAbandons (ch : Channel) (c : Connection σ) : Bool :=
  match ch.status with
  | .inactive | .error => ch.startRemoteAbandons c
  | _ => false

def stopAbandons (ch : Channel) (c : Connection σ) : Bool :=
  match ch.status with
  | .active | .preview | .error => ch.teardownAbandons c
  | _ => false

def restartAbandons (ch : Channel) (c : Connection σ) : Bool :=
  match ch.stop c with
  | ⟨.error _, _, _⟩ => ch.stopAbandons c
  | ⟨.ok (), stopped, after⟩ => ch.stopAbandons c || stopped.startAbandons after

/-- Whether the operation abandons a process of the channel. -/
def Operation.abandons (op : Operation) (ch : Channel) (c : Connection σ) : Bool :=
  match op with
  | .start => ch.startAbandons c
  | .stop => ch.stopAbandons c
  | .restart => ch.restartAbandons c
  | .startPreview _ => if ch.status = .inactive then ch.startRemoteAbandons c else false
  | .cancelPreview =>
    if ch.status = .preview ∨ (ch.status = .error ∧ ch.isPreviewing) then ch.teardownAbandons c
    else false
  | _ => false

def Operation.abandoned (op : Operation) (ch : Channel) (c : Connection σ) : List String :=
  if op.abandons ch c then [ch.id] else []

end Channel

end Simulcast
