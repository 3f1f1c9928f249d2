import Simulcast.Proofs.Process.Shown
import Simulcast.Proofs.Run.Live
import Simulcast.Proofs.Studio.Asked

/-!
# Broadcasts

In a stretch of a run in which the service answers and a channel keeps its outputs, what the
channel has enabled is what its process carries whenever it is on the air. Only a preview that went
live with something else enabled than it began with takes its process onto the air as it was.
-/

namespace Simulcast

namespace Studio

open Channel (Previews Matched)

/-! ### Stretches of a run -/

/-- The operation leaves the outputs of the channel of this id what they are. -/
def Operation.Broadcasts (id : String) : Operation → Prop
  | .onChannel target operation => target = id → operation.Broadcasts
  | .deleteChannel target | .applyTemplate target _ _ => target ≠ id
  | _ => True

/-- The service goes on answering, and the channel of this id keeps its outputs. -/
def Event.Broadcasts (id : String) : Event → Prop
  | .operation op => op.Broadcasts id
  | .setClock _ | .announceExpiry _ => True
  | _ => False

/-- What is in mind of the previews of the channel of this id after an operation. -/
def Operation.previews (id : String) (op : Operation) (s : Studio Simulated) (r : Previews) :
    Previews :=
  match op with
  | .onChannel target operation =>
    if target = id then
      match s.find? target with
      | none => r
      | some ch => r.after operation ch s.connection
    else r
  | _ => r

def Event.previews (id : String) (e : Event) (s : Studio Simulated) (r : Previews) : Previews :=
  match e with
  | .operation op => op.previews id s r
  | _ => r

/-- What is in mind of the previews of the channel of this id after a stretch of a run. -/
def previewed (id : String) : List Event → Studio Simulated → Previews → Previews
  | [], _, r => r
  | e :: rest, s, r => previewed id rest (e.run s) (e.previews id s r)

/-! ### Keeping the agreement -/

/-- The processes are accounted for, the service answers, and the channel of this id is matched by
its process. -/
structure Broadcasting (id : String) (r : Previews) (used left : List String)
    (channels : List Channel) (c : Connection Simulated) : Prop
    extends Accounted used left channels c where
  answering : Answering c
  linked : ∀ ch ∈ channels, ch.Linked
  matched : ∀ ch ∈ channels, ch.id = id → Matched r ch c.remote

namespace Broadcasting

variable {id : String} {r : Previews} {used left : List String}

/-- Of what an operation on one channel does, the others see nothing. -/
theorem run {before after : List Channel} {ch : Channel} {c : Connection Simulated}
    (h : Broadcasting id r used left (before ++ ch :: after) c) {op : Channel.Operation}
    {r' : Previews} (hown : ch.id = id → op.Broadcasts ∧ r' = r.after op ch c)
    (hother : ch.id ≠ id → r' = r) :
    Broadcasting id r' used (left ++ op.abandoned ch c) (before ++ (op.run ch c).channel :: after)
      (op.run ch c).connection := by
  obtain ⟨hlinked, linked⟩ := forall_split.mp h.linked
  obtain ⟨hmatched, matched⟩ := forall_split.mp h.matched
  have hsettled := (forall_split.mp h.settled).1
  have htie := (forall_split.mp h.tie).1
  have hid := op.id_run ch c
  refine { h.toAccounted.run op with
    answering := op.run_steady answering_steady ch h.answering
    linked := forall_split.mpr ⟨hlinked.run op c, linked⟩
    matched := forall_split.mpr ⟨fun he => ?_, fun x hx he => ?_⟩ }
  · rw [hid] at he
    obtain ⟨hop, rfl⟩ := hown he
    exact (hmatched he).run hop h.tidy htie hsettled hlinked h.answering
  · have hne : x.id ≠ ch.id := h.apart.1 x hx
    obtain rfl := hother fun hch => hne (he.trans hch.symm)
    exact (matched x hx he).congr ((op.upheld h.tidy htie).held hne)

theorem drop {before after : List Channel} {ch : Channel} {c : Connection Simulated}
    (h : Broadcasting id r used left (before ++ ch :: after) c) (hidle : ch.status = .inactive) :
    Broadcasting id r used left (before ++ after) c :=
  { h.toAccounted.drop hidle with
    answering := h.answering
    linked := (forall_split.mp h.linked).2
    matched := (forall_split.mp h.matched).2 }

theorem add {s : Studio Simulated} (h : Broadcasting id r used left s.channels s.connection)
    {ch : Channel} (hadded : Added s ch) (hnew : ch.id ∉ used) :
    Broadcasting id r (used ++ [ch.id]) left (s.channels ++ [ch]) s.connection := by
  have hparts : ch.Settled ∧ ch.processReference = none ∧ ch.Linked := by
    cases hadded with
    | new id name => exact ⟨Channel.settled_new id name, rfl, Channel.new_linked id name⟩
    | copy hch id name => exact ⟨Channel.settled_duplicate _ id name, rfl,
        (h.linked _ hch).duplicate id name⟩
  refine { h.toAccounted.add ch hnew hparts.1 hparts.2.1 with
    answering := h.answering
    linked := fun x hx => ?_
    matched := fun x hx he => ?_ }
  · obtain hx | hx := List.mem_append.mp hx
    · exact h.linked x hx
    · obtain rfl := List.mem_singleton.mp hx
      exact hparts.2.2
  · obtain hx | hx := List.mem_append.mp hx
    · exact h.matched x hx he
    · obtain rfl := List.mem_singleton.mp hx
      exact .off (by rw [hadded.inactive]; exact ⟨nofun, nofun⟩)

end Broadcasting

/-- Except when it is asked for by itself, an operation on the channel belongs to a broadcast, and
leaves its previews as they are in mind. -/
theorem Operation.Broadcasts.asks {op : Operation} {id : String} (hop : op.Broadcasts id)
    (hno : ∀ target o, op ≠ .onChannel target o) {s : Studio Simulated} {ch : Channel}
    {o : Channel.Operation} {c : Connection Simulated} (h : op.Asks s ch o c) (hid : ch.id = id) :
    o.Broadcasts ∧ ∀ r : Previews, r.after o ch c = r := by
  cases op with
  | onChannel target o => exact (hno target o rfl).elim
  | deleteChannel target | applyTemplate target => exact (hop (h.1.trans hid)).elim
  | startAll | stopAll =>
    obtain rfl := h
    exact ⟨trivial, fun _ => rfl⟩
  | tick =>
    obtain rfl | rfl := h
    · exact ⟨trivial, fun _ => rfl⟩
    · exact ⟨trivial, fun _ => rfl⟩
  | _ => exact h.elim

namespace Broadcasting

variable {id : String} {r : Previews} {used left : List String} {s : Studio Simulated}

theorem onChannel (h : Broadcasting id r used left s.channels s.connection) {target : String}
    {o : Channel.Operation} (ho : target = id → o.Broadcasts) :
    ∃ left', Broadcasting id ((Operation.onChannel target o).previews id s r) used left'
      ((Operation.onChannel target o).run s).studio.channels
      ((Operation.onChannel target o).run s).studio.connection := by
  simp only [Operation.run, Outcome.answering, Operation.previews]
  cases hf : s.find? target with
  | none =>
    simp only [Studio.onChannel, hf, ite_self]
    exact ⟨left, h⟩
  | some ch =>
    obtain ⟨before, after, hs, hchannels, hconnection⟩ := onChannel_found hf o.run
    have hid := (find?_split hf).1
    rw [hs] at h
    rw [hchannels, hconnection]
    refine ⟨_, h.run (fun he => ?_) fun he => ?_⟩
    · have htarget := hid.symm.trans he
      exact ⟨ho htarget, if_pos htarget⟩
    · exact if_neg fun htarget => he (hid.trans htarget)

theorem operation (h : Broadcasting id r used left s.channels s.connection) {op : Operation}
    (hop : op.Broadcasts id) (hnew : ∀ id ∈ op.generated s, id ∉ used) :
    ∃ left', Broadcasting id (op.previews id s r) (used ++ op.generated s) left'
      (op.run s).studio.channels (op.run s).studio.connection := by
  by_cases hon : ∃ target o, op = .onChannel target o
  · obtain ⟨target, o, rfl⟩ := hon
    rw [show (Operation.onChannel target o).generated s = [] from rfl, List.append_nil]
    exact h.onChannel hop
  · push Not at hon
    have hsame : op.previews id s r = r := by
      cases op with
      | onChannel target o => exact (hon target o rfl).elim
      | _ => rfl
    rw [hsame]
    refine op.run_induction (I := fun channels c => ∃ left',
      Broadcasting id r (used ++ op.generated s) left' channels c) ?_ ?_ ?_ ?_
    · rintro before ch after o c hasks ⟨left', h'⟩
      refine ⟨_, h'.run (fun he => ?_) fun _ => rfl⟩
      obtain ⟨ho, hr⟩ := hop.asks hon hasks he
      exact ⟨ho, (hr r).symm⟩
    · rintro before ch after c hidle ⟨left', h'⟩
      exact ⟨left', h'.drop hidle⟩
    · intro ch hadded hgenerated
      rw [hgenerated] at hnew ⊢
      exact ⟨left, h.add hadded (hnew ch.id (List.mem_singleton_self _))⟩
    · exact ⟨left, { h.toAccounted.use (op.generated s) with
        answering := h.answering, linked := h.linked, matched := h.matched }⟩

theorem event (h : Broadcasting id r used left s.channels s.connection) {e : Event}
    (he : e.Broadcasts id) (hnew : ∀ id ∈ e.generated s, id ∉ used) :
    ∃ left', Broadcasting id (e.previews id s r) (used ++ e.generated s) left'
      (e.run s).channels (e.run s).connection := by
  cases e with
  | operation op => exact h.operation he hnew
  | setClock | announceExpiry =>
    have ha := h.answering
    refine ⟨_, { h.toAccounted.event _ hnew with
      answering := ⟨ha.failures, ha.credentials, ha.username, ha.password, ha.access, ha.refresh,
        ha.unthrottled⟩
      linked := h.linked
      matched := fun ch hch hid => (h.matched ch hch hid).congr rfl }⟩
  | _ => exact he.elim

theorem runAll (h : Broadcasting id r used left s.channels s.connection) {events : List Event}
    (hevents : ∀ e ∈ events, e.Broadcasts id) (hnodup : (along Event.generated events s).Nodup)
    (hnew : ∀ id ∈ along Event.generated events s, id ∉ used) :
    ∃ used' left', Broadcasting id (previewed id events s r) used' left'
      (Studio.runAll events s).channels (Studio.runAll events s).connection := by
  -- From event to event the ids in use grow, and so may what is in mind of the previews.
  induction events generalizing r used left s with
  | nil => exact ⟨used, left, h⟩
  | cons e rest ih =>
    obtain ⟨hbroadcasts, hevents⟩ := List.forall_mem_cons.mp hevents
    simp only [along, List.nodup_append, List.mem_append] at hnodup hnew
    obtain ⟨left', hfirst⟩ := h.event hbroadcasts fun id hid => hnew id (.inl hid)
    refine ih hfirst hevents hnodup.2.1 fun id hid hused => ?_
    obtain hused | hused := List.mem_append.mp hused
    · exact hnew id (.inr hid) hused
    · exact hnodup.2.2 id hused id hid rfl

end Broadcasting

/-! ### From an inactive channel -/

theorem along_append (f : Event → Studio Simulated → List String) (events later : List Event)
    (s : Studio Simulated) :
    along f (events ++ later) s = along f events s ++ along f later (runAll events s) := by
  induction events generalizing s with
  | nil => rfl
  | cons e rest ih =>
    simp only [List.cons_append, along, ih, List.append_assoc]
    rfl

theorem Reachable.runAll {s : Studio Simulated} (h : Reachable s) (events : List Event) :
    Reachable (Studio.runAll events s) := by
  induction events generalizing s with
  | nil => exact h
  | cons e rest ih => exact ih (h.event e)

/-- From when a channel is inactive, and as long as the service answers and the channel keeps its
outputs, the channel has one process whenever it is on the air. That one carries exactly the enabled
outputs, unless it went live from a preview that began with others enabled. -/
theorem on_air_iff_enabled (settings : Settings) (clock : Clock) (username password : String)
    (events later : List Event)
    (hnodup : (along Event.generated (events ++ later)
      (fresh settings clock username password)).Nodup)
    (id : String) :
    let s := runAll events (fresh settings clock username password)
    let t := runAll later s
    (∀ ch ∈ s.channels, ch.id = id → ch.status = .inactive) → Answering s.connection →
      (∀ e ∈ later, e.Broadcasts id) →
      ∀ ch ∈ t.channels, ch.id = id → ch.status = .active →
        ∃ p, t.connection.remote.processes.filter (·.info.reference == id) = [p] ∧
          (p.info.id ∉ (previewed id later s {}).altered →
            ∀ x, x ∈ p.outputs.map (·.id) ↔ ch.Airs x) := by
  intro s t hidle hanswering hlater
  rw [along_append, List.nodup_append] at hnodup
  have hstart : Broadcasting id {} _ _ s.channels s.connection :=
    { accounted_runAll settings clock username password events hnodup.1 with
      answering := hanswering
      linked := fun ch hch => (((Reachable.opened _).runAll events).channel ch hch).linked
      matched := fun ch hch hid => .off (by rw [hidle ch hch hid]; exact ⟨nofun, nofun⟩) }
  obtain ⟨_, _, h⟩ := hstart.runAll hlater hnodup.2.1 fun i hi hused => hnodup.2.2 i hused i hi rfl
  rintro ch hch rfl hactive
  have hrunning := (h.tie ch hch).running ((h.settled ch hch).live (.inl hactive))
  obtain ⟨p, hp, _⟩ := List.map_eq_singleton_iff.mp hrunning
  exact ⟨p, hp, (h.matched ch hch rfl).live hactive p (hp ▸ List.mem_singleton_self p)⟩

theorem answering_fresh {settings : Settings} {username password : String}
    (hcredentials : settings.hasCredentials = true) (hu : settings.username = username)
    (hp : settings.password = password) (clock : Clock) :
    Answering (fresh settings clock username password).connection :=
  ⟨fun _ => rfl, hcredentials, hu, hp, nofun, nofun, rfl⟩

/-- A run that leaves an inactive channel with two outputs, the second of them the backup of the
first. -/
def pairRun : List Event :=
  [.operation (.createChannel "channel" ""),
    .operation (.onChannel "channel" (.addOutput .custom "key" .auto {})),
    .operation (.onChannel "channel" (.addOutput .custom "key" .auto {})),
    .operation (.onChannel "channel" (.setOutputBackup 0 1))]

def showRun : List Event :=
  [.operation (.onChannel "channel" (.startPreview (.ofSecs 60))),
    .operation (.onChannel "channel" .goLive),
    .operation (.onChannel "channel" (.triggerFailover 0))]

theorem on_air_iff_enabled_shown :
    let s := runAll pairRun (fresh account (.startingAt 0) "user" "secret")
    let t := runAll showRun s
    t.channels.map (fun ch => (ch.id, ch.status)) = [("channel", .active)] ∧
      ∀ ch ∈ t.channels, ch.id = "channel" → ch.status = .active →
        ∃ p, t.connection.remote.processes.filter (·.info.reference == "channel") = [p] ∧
          ∀ x, x ∈ p.outputs.map (·.id) ↔ ch.Airs x := by
  have hunaltered : (previewed "channel" showRun
      (runAll pairRun (fresh account (.startingAt 0) "user" "secret")) {}).altered = [] := by
    decide
  have hbroadcasts : ∀ e ∈ showRun, e.Broadcasts "channel" := by
    simp [showRun, Event.Broadcasts, Operation.Broadcasts, Channel.Operation.Broadcasts]
  have hasked := on_air_iff_enabled account (.startingAt 0) "user" "secret" pairRun showRun
    (by decide) "channel" (by decide) (answering_fresh rfl rfl rfl _) hbroadcasts
  refine ⟨by decide, fun ch hch hid hactive => ?_⟩
  obtain ⟨p, hp, hagreed⟩ := hasked ch hch hid hactive
  exact ⟨p, hp, hagreed (by rw [hunaltered]; exact List.not_mem_nil)⟩

/-- The channel fails over while its preview runs. It goes on the air with only the second output
enabled, and its process still carries both. -/
theorem failover_in_preview_is_carried_on :
    let s := runAll pairRun (fresh account (.startingAt 0) "user" "secret")
    let t := runAll
      [.operation (.onChannel "channel" (.startPreview (.ofSecs 60))),
        .operation (.onChannel "channel" (.triggerFailover 0)),
        .operation (.onChannel "channel" .goLive)] s
    s.channels.map (fun ch => (ch.id, ch.status)) = [("channel", .inactive)] ∧
      s.connection.remote.processes.map (·.info.id) = [] ∧
      t.channels.map (fun ch => (ch.id, ch.status, ch.enabledOutputs.map (·.id))) =
        [("channel", .active, ["Custom_1"])] ∧
      t.connection.remote.processes.map (fun p => (p.info.reference, p.outputs.map (·.id))) =
        [("channel", ["Custom_0", "Custom_1"])] := by
  decide

end Studio

end Simulcast
