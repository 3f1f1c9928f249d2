import Mathlib.Tactic.SplitIfs
import Simulcast.Channel.Health
import Simulcast.Proofs.Session.Talk

/-!
# A health pass as a conversation

A health pass, and the reconnects within it, told as conversations over the connection. Each comes
to what the operation itself does, so the requests of the conversation are those of the operation.
-/

namespace Simulcast

namespace Channel

variable {σ : Type} [Service σ]

def findTalk (ch : Channel) : Talk (Except ChannelError ProcessInfo) :=
  match ch.processReference with
  | none => .done (.error .missingProcessReference)
  | some reference =>
    .ask .listProcesses fun
      | .error error => .done (.error (.remote error))
      | .ok processes =>
        match processes.find? (·.reference == reference) with
        | none => .done (.error (.processNotFound reference))
        | some process => .done (.ok process)

theorem run_findTalk (ch : Channel) (c : Connection σ) : ch.findTalk.run c = ch.findProcess c := by
  unfold findTalk findProcess
  cases ch.processReference with
  | none => rfl
  | some reference =>
    simp only [Talk.run, Connection.findProcess]
    generalize c.perform .listProcesses = listed
    obtain ⟨error | processes, c'⟩ := listed
    · rfl
    · simp only
      cases processes.find? (·.reference == reference) <;> rfl

theorem exchanges_findTalk {ch : Channel} {reference : String}
    (href : ch.processReference = some reference) (c : Connection σ) :
    ch.findTalk.exchanges c = [⟨.listProcesses, (c.perform .listProcesses).result⟩] := by
  simp only [findTalk, href, Talk.exchanges]
  generalize (c.perform .listProcesses).result = listed
  obtain error | processes := listed
  · rfl
  · simp only
    cases processes.find? (·.reference == reference) <;> rfl

def reissueTalk (ch : Channel) (index : Nat) (output : Output) (id : String) :
    Talk (Except ChannelError Bool × Channel) :=
  .ask (.removeOutput id (ch.pushed index output).id) fun _ =>
    .ask (.addOutput id (ch.pushed index output)) fun
      | .ok () => .done (.ok true, ch.changeOutput index Output.markConnected)
      | .error error => .done (.ok false, ch.recordError (.remote error))

def reconnectTalk (ch : Channel) (index : Nat) : Talk (Except ChannelError Bool × Channel) :=
  match ch.outputs[index]? with
  | none => .done (.error (ch.noOutput index), ch)
  | some output =>
    if ch.status ≠ .active then .done (.error (.invalidState "reconnect" ch.status), ch)
    else if 0 < ch.reconnect.maxAttempts ∧ ch.reconnect.maxAttempts ≤ output.failures then
      let error := ChannelError.reconnectExhausted index output.failures
      let ch := ch.changeOutput index ({ · with enabled := false, connected := false })
      .done (.error error, ch.recordError error)
    else
      .wait ch.reconnect.delay (ch.findTalk.bind fun
        | .error error => .done (.ok false, ch.recordError error)
        | .ok process =>
          if process.isRunning then ch.reissueTalk index output process.id
          else .done (.ok false, ch.recordError (.processNotRunning process.state)))

theorem run_reconnectTalk (ch : Channel) (index : Nat) (c : Connection σ) :
    (ch.reconnectTalk index).run c =
      (((ch.reconnectOutput index c).result, (ch.reconnectOutput index c).channel),
        (ch.reconnectOutput index c).connection) := by
  unfold reconnectTalk reconnectOutput
  cases ch.outputs[index]? with
  | none => rfl
  | some output =>
    simp only
    split_ifs
    · rfl
    · rfl
    · rw [Talk.run, Talk.run_bind, run_findTalk]
      generalize ch.findProcess (c.sleep ch.reconnect.delay) = found
      obtain ⟨error | process, c₁⟩ := found
      · rfl
      · simp only
        split_ifs
        · simp only [reissueTalk, Talk.run]
          generalize (c₁.perform (.removeOutput process.id _)).connection = c₂
          generalize c₂.perform (.addOutput process.id _) = added
          obtain ⟨error | _, c₃⟩ := added <;> rfl
        · rfl

def inspectTalk (present : List String) (checkedAt index : Nat) (ch : Channel) : Talk Channel :=
  match ch.outputs[index]? with
  | none => .done ch
  | some output =>
    if output.enabled then
      if remoteId output.platform index ∈ present then
        .done (ch.changeOutput index fun o => { o with lastCheck := some checkedAt }.markConnected)
      else
        let missing := { output with lastCheck := some checkedAt }.markMissing
        let ch := ch.changeOutput index fun _ => missing
        if ch.health.threshold ≤ missing.failures ∧ missing.autoReconnect then
          (ch.reconnectTalk index).bind fun answer => .done answer.2
        else .done ch
    else .done ch

theorem run_inspectTalk (present : List String) (checkedAt index : Nat) (ch : Channel)
    (c : Connection σ) :
    (inspectTalk present checkedAt index ch).run c =
      inspectOutput present checkedAt index ch c := by
  unfold inspectTalk inspectOutput
  cases ch.outputs[index]? with
  | none => rfl
  | some output =>
    simp only
    split_ifs
    · rfl
    · rw [Talk.run_bind, run_reconnectTalk]
      rfl
    · rfl
    · rfl

def inspectEachTalk (present : List String) (checkedAt : Nat) :
    List Nat → Channel → Talk Channel
  | [], ch => .done ch
  | index :: rest, ch =>
    (inspectTalk present checkedAt index ch).bind (inspectEachTalk present checkedAt rest)

theorem inspectEachTalk_append (present : List String) (checkedAt : Nat) (first later : List Nat)
    (ch : Channel) :
    inspectEachTalk present checkedAt (first ++ later) ch =
      (inspectEachTalk present checkedAt first ch).bind
        (inspectEachTalk present checkedAt later) := by
  induction first generalizing ch with
  | nil => rfl
  | cons index rest ih =>
    rw [List.cons_append, inspectEachTalk, inspectEachTalk, Talk.bind_assoc]
    exact congrArg _ (funext ih)

theorem run_inspectEachTalk (present : List String) (checkedAt : Nat) (indices : List Nat)
    (ch : Channel) (c : Connection σ) :
    (inspectEachTalk present checkedAt indices ch).run c =
      inspectEach present checkedAt indices ch c := by
  induction indices generalizing ch c with
  | nil => rfl
  | cons index rest ih =>
    rw [inspectEachTalk, Talk.run_bind, run_inspectTalk, ih]
    rfl

def inspectAllTalk (ch : Channel) (checkedAt : Nat) (running : Bool) (present : List String) :
    Talk (Bool × Channel) :=
  (inspectEachTalk present checkedAt (List.range ch.outputs.length) ch).bind fun ch =>
    .done (running && ch.allConnected, ch)

def passTalk (ch : Channel) (now : Instant) : Talk (Bool × Channel) :=
  ch.findTalk.bind fun
    | .error error => .done (false, ch.recordError error)
    | .ok process =>
      if process.isRunning then
        .ask (.getOutputs process.id) fun
          | .error error => .done (false, ch.recordError (.remote error))
          | .ok present => ch.inspectAllTalk now.unix true present
      else ch.inspectAllTalk now.unix false []

def healthTalk (ch : Channel) (now : Instant) : Talk (Bool × Channel) :=
  if ch.status = .active ∧ ch.health.enabled then { ch with lastCheck := some now }.passTalk now
  else .done (true, ch)

theorem run_inspectAllTalk (ch : Channel) (checkedAt : Nat) (running : Bool)
    (present : List String) (c : Connection σ) :
    (ch.inspectAllTalk checkedAt running present).run c =
      (((ch.inspectAll checkedAt running present c).1,
        (ch.inspectAll checkedAt running present c).2.1),
        (ch.inspectAll checkedAt running present c).2.2) := by
  rw [inspectAllTalk, Talk.run_bind, run_inspectEachTalk]
  rfl

theorem run_healthTalk (ch : Channel) (c : Connection σ) :
    (ch.healthTalk c.now).run c =
      (((ch.checkHealth c).1, (ch.checkHealth c).2.1), (ch.checkHealth c).2.2) := by
  unfold healthTalk checkHealth
  split_ifs
  · simp only [healthPass]
    generalize ({ ch with lastCheck := some c.now } : Channel) = noted
    rw [passTalk, Talk.run_bind, run_findTalk]
    generalize noted.findProcess c = found
    obtain ⟨error | process, c₁⟩ := found
    · rfl
    · simp only
      split_ifs
      · simp only [Talk.run]
        generalize c₁.perform (.getOutputs process.id) = listed
        obtain ⟨error | present, c₂⟩ := listed
        · rfl
        · exact noted.run_inspectAllTalk c.now.unix true present c₂
      · exact noted.run_inspectAllTalk c.now.unix false [] c₁
  · rfl

end Channel

end Simulcast
