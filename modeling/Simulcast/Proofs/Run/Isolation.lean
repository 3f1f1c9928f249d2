import Simulcast.Proofs.Process.Isolated
import Simulcast.Proofs.Run.Occurrences
import Simulcast.Proofs.Studio.Asked

/-!
# Channels do not meddle with each other

Whatever occurred in a run, the processes of the service have names of their own and each channel
refers to its own process or to none. So an operation that is addressed to one channel leaves the
other channels as they are, and of the processes of the service those that are not that channel's.
-/

namespace Simulcast

namespace Studio

/-! ### Names along a run -/

theorem Operation.run_named (op : Operation) {s : Studio Simulated}
    (h : s.connection.remote.Named) : (op.run s).studio.connection.remote.Named :=
  op.run_induction (I := fun _ (c : Connection Simulated) => c.remote.Named)
    (fun _ ch _ o _ _ hc => o.run_steady Connection.steady_named ch hc) (fun _ _ _ _ _ hc => hc)
    (fun _ _ _ => h) h

theorem Event.run_named (e : Event) {s : Studio Simulated} (h : s.connection.remote.Named) :
    (e.run s).connection.remote.Named := by
  cases e with
  | operation op => exact op.run_named h
  | dropOutput id output =>
    obtain ⟨_, htended⟩ := s.connection.remote.dropOutput_tended id output
    exact htended.named h
  | _ => exact ⟨h.ids, h.numbered, h.references⟩

theorem Occurrence.run_named (o : Occurrence) {s : Studio Simulated}
    (h : s.connection.remote.Named) : (o.run s).connection.remote.Named := by
  cases o with
  | event e => exact e.run_named h
  | session op => exact op.run_passing Connection.passing_named s.connection h
  | call asked => exact Simulated.answer_named h asked
  | setProcessState id state =>
    simp only [Occurrence.run, withRemote, Simulated.setProcessState]
    cases s.connection.remote.find? id with
    | none => exact h
    | some p => exact h.change id (Simulated.modest_withState state)
  | forgetProcess id => exact h.withoutProcess id

theorem after_named {s : Studio Simulated} (h : s.connection.remote.Named)
    (occurrences : List Occurrence) : (after occurrences s).connection.remote.Named := by
  induction occurrences generalizing s with
  | nil => exact h
  | cons o rest ih => exact ih (o.run_named h)

/-! ### Addressed operations -/

/-- The channel that an operation is addressed to. -/
def Operation.addressee? : Operation → Option String
  | .onChannel id _ | .deleteChannel id | .applyTemplate id _ _ => some id
  | _ => none

def others (id : String) (channels : List Channel) : List Channel :=
  channels.filter (·.id != id)

theorem others_append_cons {id : String} {ch : Channel} (hid : ch.id = id)
    (before after : List Channel) :
    others id (before ++ ch :: after) = others id (before ++ after) := by
  simp [others, hid]

/-- An operation on the channel of an id is seen by that channel only. -/
theorem onChannel_isolated {s : Studio Simulated} (hsettled : ∀ ch ∈ s.channels, ch.Settled)
    (id : String) (operation : Channel → Connection Simulated → Channel.Outcome Simulated α)
    (hid : ∀ ch c, (operation ch c).channel.id = ch.id)
    (hop : ∀ ch c, ch.Settled → Isolates ch.id c.remote (operation ch c).connection.remote) :
    others id (s.onChannel id operation).studio.channels = others id s.channels ∧
      Isolates id s.connection.remote (s.onChannel id operation).studio.connection.remote := by
  cases hf : s.find? id with
  | none =>
    simp only [onChannel, hf]
    exact ⟨trivial, .of_alike (.refl _)⟩
  | some ch =>
    obtain ⟨before, after, hs, hchannels, hconnection⟩ := onChannel_found hf operation
    obtain ⟨rfl, _⟩ := find?_split hf
    rw [hchannels, hconnection, hs, others_append_cons (hid ch _), others_append_cons rfl]
    exact ⟨rfl, hop ch _ (hsettled ch (List.mem_of_find?_eq_some hf))⟩

theorem others_eraseP (id : String) (channels : List Channel) :
    others id (channels.eraseP (·.id == id)) = others id channels := by
  induction channels with
  | nil => rfl
  | cons ch rest ih =>
    by_cases hid : ch.id = id
    · simp [others, hid]
    · have hne : (ch.id == id) = false := beq_eq_false_iff_ne.mpr hid
      simp only [others, List.eraseP_cons, hne, cond_false, List.filter_cons] at ih ⊢
      rw [ih]

theorem Operation.run_isolated {s : Studio Simulated} (hsettled : ∀ ch ∈ s.channels, ch.Settled)
    {op : Operation} {id : String} (h : op.addressee? = some id) :
    others id (op.run s).studio.channels = others id s.channels ∧
      Isolates id s.connection.remote (op.run s).studio.connection.remote := by
  cases op with
  | onChannel target operation =>
    obtain rfl := Option.some.inj h
    exact onChannel_isolated hsettled target operation.run operation.id_run
      fun _ c hch => hch.run_isolates operation c
  | deleteChannel target =>
    obtain rfl := Option.some.inj h
    have hstopped := onChannel_isolated hsettled target Channel.stop Channel.Operation.stop.id_run
      fun _ c hch => hch.run_isolates .stop c
    simp only [Operation.run, Outcome.answering, Studio.deleteChannel]
    generalize s.onChannel target Channel.stop = stopped at hstopped ⊢
    obtain ⟨error | _, s'⟩ := stopped
    · exact hstopped
    · exact ⟨(others_eraseP target s'.channels).trans hstopped.1, hstopped.2⟩
  | applyTemplate target template streamKey =>
    obtain rfl := Option.some.inj h
    simp only [Operation.run, Outcome.answering, Studio.applyTemplate]
    cases s.template? template with
    | none => exact ⟨rfl, .of_alike (.refl _)⟩
    | some t =>
      exact onChannel_isolated hsettled target _ (fun _ _ => rfl) fun _ _ _ => .of_alike (.refl _)
  | _ => cases h

/-- An operation that is addressed to a channel that is not there does nothing. -/
theorem Operation.run_unaddressed {s : Studio Simulated} {op : Operation} {id : String}
    (h : op.addressee? = some id) (hno : ∀ ch ∈ s.channels, ch.id ≠ id) :
    (op.run s).studio = s := by
  have hf : s.find? id = none := List.find?_eq_none.mpr fun ch hch => by simpa using hno ch hch
  cases op with
  | onChannel target operation =>
    obtain rfl := Option.some.inj h
    simp only [Operation.run, Outcome.answering, Studio.onChannel, hf]
  | deleteChannel target =>
    obtain rfl := Option.some.inj h
    simp only [Operation.run, Outcome.answering, Studio.deleteChannel, Studio.onChannel, hf]
  | applyTemplate target template streamKey =>
    obtain rfl := Option.some.inj h
    simp only [Operation.run, Outcome.answering, Studio.applyTemplate]
    cases s.template? template with
    | none => rfl
    | some t => simp only [Studio.onChannelAlone, Studio.onChannel, hf]
  | _ => cases h

theorem named_fresh (settings : Settings) (clock : Clock) (username password : String) :
    (fresh settings clock username password).connection.remote.Named :=
  ⟨List.nodup_nil, nofun, List.nodup_nil⟩

/-- Whatever occurred since a studio was new, an operation that is addressed to one channel leaves
every other channel as it is and where it is, and every process that is not under the reference of
that channel. If there is no such channel it leaves the studio as it is. -/
theorem channels_isolated (settings : Settings) (clock : Clock) (username password : String)
    (occurrences : List Occurrence) (op : Operation) {id : String}
    (h : op.addressee? = some id) :
    let s := after occurrences (fresh settings clock username password)
    let s' := (op.run s).studio
    s'.channels.filter (·.id != id) = s.channels.filter (·.id != id) ∧
      s'.connection.remote.processes.filter (·.info.reference != id) =
        s.connection.remote.processes.filter (·.info.reference != id) ∧
      ((∀ ch ∈ s.channels, ch.id ≠ id) → s' = s) := by
  intro s s'
  have hreachable : Reachable s := (Reachable.opened _).after occurrences
  have hnamed : s.connection.remote.Named := after_named (named_fresh _ _ _ _) occurrences
  have hsettled : ∀ ch ∈ s.channels, ch.Settled := fun ch hch =>
    (hreachable.channel ch hch).settled
  obtain ⟨hchannels, hremote⟩ := Operation.run_isolated hsettled h
  exact ⟨hchannels, (hremote hnamed).2, Operation.run_unaddressed h⟩

/-- Two channels on the air; the first one is stopped while the service fails to delete its
process. -/
def twoOnAir : List Occurrence :=
  [.event (.operation (.createChannel "first" "")),
    .event (.operation (.createChannel "second" "")),
    .event (.operation (.onChannel "first" (.addOutput .custom "key" .auto {}))),
    .event (.operation (.onChannel "second" (.addOutput .custom "key" .auto {}))),
    .event (.operation (.onChannel "first" .start)),
    .event (.operation (.onChannel "second" .start)),
    .event (.failNext .deleteProcess 1)]

theorem channels_isolated_stopping :
    let s := after twoOnAir (fresh account (.startingAt 0) "user" "secret")
    let op : Operation := .onChannel "first" .stop
    let s' := (op.run s).studio
    op.addressee? = some "first" ∧
      s.channels.map (fun ch => (ch.id, ch.status)) = [("first", .active), ("second", .active)] ∧
      s'.channels.map (fun ch => (ch.id, ch.status)) =
        [("first", .inactive), ("second", .active)] ∧
      s'.channels.filter (·.id != "first") = s.channels.filter (·.id != "first") ∧
      s'.connection.remote.processes.filter (·.info.reference != "first") =
        s.connection.remote.processes.filter (·.info.reference != "first") := by
  intro s op s'
  have haddressed : op.addressee? = some "first" := rfl
  obtain ⟨hchannels, hprocesses, _⟩ := channels_isolated account (.startingAt 0) "user" "secret"
    twoOnAir op haddressed
  exact ⟨haddressed, by decide, by decide, hchannels, hprocesses⟩

end Studio

end Simulcast
