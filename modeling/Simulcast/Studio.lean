import Simulcast.Channel.Health
import Simulcast.Channel.Live
import Simulcast.Channel.Preview
import Simulcast.Template

/-!
# The studio

A studio owns a connection to the service, the channels and the templates. Channels and templates
are addressed by id; new ids are chosen by the caller. A tick runs whatever is due: health passes
of active channels, and the end of previews that timed out.
-/

namespace Simulcast

structure Studio (σ : Type) where
  connection : Connection σ
  channels : List Channel := []
  templates : List Template := Template.builtins

structure TickReport where
  checked : Nat := 0
  unhealthy : List String := []
  expired : List String := []
  deriving DecidableEq

namespace Studio

/-- What an operation comes back with, and the studio afterwards. -/
structure Outcome (σ α : Type) where
  result : Except ChannelError α
  studio : Studio σ

variable {σ : Type}

def find? (s : Studio σ) (id : String) : Option Channel := s.channels.find? (·.id == id)

def activeCount (s : Studio σ) : Nat := s.channels.countP (·.isActive)

def template? (s : Studio σ) (id : String) : Option Template := s.templates.find? (·.id == id)

def replaceFirst (id : String) (ch : Channel) : List Channel → List Channel
  | [] => []
  | first :: rest => if first.id = id then ch :: rest else first :: replaceFirst id ch rest

def withChannel (s : Studio σ) (id : String) (ch : Channel) : Studio σ :=
  { s with channels := replaceFirst id ch s.channels }

def onChannel (s : Studio σ) (id : String)
    (operation : Channel → Connection σ → Channel.Outcome σ α) : Outcome σ α :=
  match s.find? id with
  | none => ⟨.error (.channelNotFound id), s⟩
  | some ch =>
    match operation ch s.connection with
    | ⟨result, ch, c⟩ => ⟨result, { s with connection := c }.withChannel id ch⟩

def onChannelAlone (s : Studio σ) (id : String)
    (operation : Channel → Except ChannelError α × Channel) : Outcome σ α :=
  s.onChannel id fun ch c =>
    match operation ch with
    | (result, ch) => ⟨result, ch, c⟩

def editChannel (s : Studio σ) (id : String) (edit : Channel → Except ChannelError Channel) :
    Outcome σ Unit :=
  s.onChannelAlone id fun ch =>
    match edit ch with
    | .ok changed => (.ok (), changed)
    | .error error => (.error error, ch)

def createChannel (s : Studio σ) (id name : String) : Studio σ :=
  { s with channels := s.channels ++ [{ id, name }] }

def duplicateChannel (s : Studio σ) (source id name : String) : Outcome σ String :=
  match s.find? source with
  | none => ⟨.error (.channelNotFound source), s⟩
  | some ch => ⟨.ok id, { s with channels := s.channels ++ [ch.duplicate id name] }⟩

/-! ### Templates -/

def createTemplate (s : Studio σ) (t : Template) : Studio σ :=
  { s with templates := s.templates ++ [t] }

/-- Deletes a template of the user; the built-in ones stay. -/
def deleteTemplate (s : Studio σ) (id : String) : Outcome σ Unit :=
  match s.template? id with
  | none => ⟨.error (.templateNotFound id), s⟩
  | some t =>
    if t.builtin then ⟨.error (.builtinTemplate id), s⟩
    else ⟨.ok (), { s with templates := s.templates.eraseP (·.id == id) }⟩

def applyTemplate (s : Studio σ) (channel template streamKey : String) : Outcome σ Nat :=
  match s.template? template with
  | none => ⟨.error (.templateNotFound template), s⟩
  | some t =>
    s.onChannelAlone channel fun ch =>
      match ch.applyTemplate t streamKey with
      | (index, ch) => (.ok index, ch)

variable [Service σ]

/-- Removes a channel, which is stopped first if it has to be. -/
def deleteChannel (s : Studio σ) (id : String) : Outcome σ Unit :=
  match s.onChannel id Channel.stop with
  | ⟨.error error, s⟩ => ⟨.error error, s⟩
  | ⟨.ok (), s⟩ => ⟨.ok (), { s with channels := s.channels.eraseP (·.id == id) }⟩

/-- Runs an operation on each channel that asks for it, and counts those that asked and those that
failed. -/
def onEach (asks : Channel → Bool) (operation : Channel → Connection σ → Channel.Outcome σ Unit) :
    List Channel → Connection σ → (Nat × Nat) × List Channel × Connection σ
  | [], c => ((0, 0), [], c)
  | ch :: rest, c =>
    if asks ch then
      match operation ch c with
      | ⟨result, ch, c⟩ =>
        match onEach asks operation rest c with
        | ((total, failed), rest, c) =>
          ((total + 1, (match result with | .ok () => failed | .error _ => failed + 1)),
           ch :: rest, c)
    else
      match onEach asks operation rest c with
      | (counts, rest, c) => (counts, ch :: rest, c)

def bulk (s : Studio σ) (asks : Channel → Bool)
    (operation : Channel → Connection σ → Channel.Outcome σ Unit) : Outcome σ Unit :=
  match onEach asks operation s.channels s.connection with
  | ((total, failed), channels, connection) =>
    ⟨Channel.bulkResult failed total, { s with channels, connection }⟩

def startAll (s : Studio σ) : Outcome σ Unit := s.bulk (·.autoStart) Channel.start

def stopAll (s : Studio σ) : Outcome σ Unit := s.bulk (fun _ => true) Channel.stop

/-- Runs what is due for one channel. A preview whose cancellation failed is tried again. -/
def tickChannel (now : Instant) (ch : Channel) (c : Connection σ) :
    TickReport × Channel × Connection σ :=
  if ch.healthCheckDue now then
    match ch.checkHealth c with
    | (healthy, ch, c) =>
      ({ checked := 1, unhealthy := if healthy then [] else [ch.id] }, ch, c)
  else if (ch.status = .preview ∨ ch.status = .error) ∧ ch.previewTimedOut now then
    match ch.cancelPreview c with
    | ⟨.ok (), ch, c⟩ => ({ expired := [ch.id] }, ch, c)
    | ⟨.error _, ch, c⟩ => ({}, ch, c)
  else ({}, ch, c)

def tickEach (now : Instant) :
    List Channel → Connection σ → TickReport × List Channel × Connection σ
  | [], c => ({}, [], c)
  | ch :: rest, c =>
    match tickChannel now ch c with
    | (first, ch, c) =>
      match tickEach now rest c with
      | (later, rest, c) =>
        ({ checked := first.checked + later.checked
           unhealthy := first.unhealthy ++ later.unhealthy
           expired := first.expired ++ later.expired }, ch :: rest, c)

/-- What counts as due is settled when the tick begins. -/
def tick (s : Studio σ) : TickReport × Studio σ :=
  match tickEach s.connection.now s.channels s.connection with
  | (report, channels, connection) => (report, { s with channels, connection })

end Studio

end Simulcast
