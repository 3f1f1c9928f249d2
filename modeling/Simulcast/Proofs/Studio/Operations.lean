import Simulcast.Proofs.Studio.Moves

/-!
# What an operation on a studio does to its channels

Each operation is a sequence of moves over the channels that are there, or it adds one channel of a
new id behind them and does nothing else.
-/

namespace Simulcast

namespace Studio

variable {σ : Type} [Service σ]

theorem replaceFirst_append {id : String} {before : List Channel} {ch : Channel}
    (hbefore : ∀ x ∈ before, x.id ≠ id) (hid : ch.id = id) (ch' : Channel) (after : List Channel) :
    replaceFirst id ch' (before ++ ch :: after) = before ++ ch' :: after := by
  induction before with
  | nil => simp [replaceFirst, hid]
  | cons x rest ih =>
    have hx : x.id ≠ id := hbefore x List.mem_cons_self
    simp only [List.cons_append, replaceFirst, if_neg hx]
    rw [ih fun y hy => hbefore y (List.mem_cons_of_mem x hy)]

omit [Service σ] in
theorem find?_split {s : Studio σ} {id : String} {ch : Channel} (h : s.find? id = some ch) :
    ch.id = id ∧ ∃ before after, s.channels = before ++ ch :: after ∧
      ∀ x ∈ before, x.id ≠ id := by
  obtain ⟨hid, before, after, hs, hbefore⟩ := List.find?_eq_some_iff_append.mp h
  exact ⟨by simpa using hid, before, after, hs, fun x hx => by simpa using hbefore x hx⟩

omit [Service σ] in
theorem onChannel_found {s : Studio σ} {id : String} {ch : Channel} (hf : s.find? id = some ch)
    (operation : Channel → Connection σ → Channel.Outcome σ α) :
    ∃ before after, s.channels = before ++ ch :: after ∧
      (s.onChannel id operation).studio.channels =
        before ++ (operation ch s.connection).channel :: after ∧
      (s.onChannel id operation).studio.connection = (operation ch s.connection).connection := by
  obtain ⟨hid, before, after, hs, hbefore⟩ := find?_split hf
  refine ⟨before, after, hs, ?_⟩
  simp only [onChannel, hf, withChannel, hs, replaceFirst_append hbefore hid, and_self]

/-- The channels whose processes the operation abandons. -/
def Operation.abandoned (op : Operation) (s : Studio σ) : List String :=
  match op with
  | .onChannel id operation =>
    match s.find? id with
    | none => []
    | some ch => operation.abandoned ch s.connection
  | .deleteChannel id =>
    match s.find? id with
    | none => []
    | some ch => Channel.Operation.stop.abandoned ch s.connection
  | .startAll =>
    abandonedEach (fun ch => if ch.autoStart then some .start else none) s.channels s.connection
  | .stopAll => abandonedEach (fun _ => some .stop) s.channels s.connection
  | .tick => abandonedEach (dueOperation s.connection.now) s.channels s.connection
  | _ => []

/-- The ids that the operation brings into the studio. -/
def Operation.generated (op : Operation) (s : Studio σ) : List String :=
  match op with
  | .createChannel id _ => [id]
  | .duplicateChannel source id _ => if (s.find? source).isSome then [id] else []
  | _ => []

theorem onChannel_moves (s : Studio σ) (id : String) (op : Channel.Operation)
    (operation : Channel → Connection σ → Channel.Outcome σ α)
    (hop : ∀ ch c, (op.run ch c).channel = (operation ch c).channel ∧
      (op.run ch c).connection = (operation ch c).connection) :
    Moves (s.channels, s.connection)
      (match s.find? id with
        | none => []
        | some ch => op.abandoned ch s.connection)
      ((s.onChannel id operation).studio.channels,
        (s.onChannel id operation).studio.connection) := by
  cases hf : s.find? id with
  | none =>
    simp only [onChannel, hf]
    exact .none _
  | some ch =>
    obtain ⟨before, after, hs, hchannels, hconnection⟩ := onChannel_found hf operation
    have hmove := Move.run before after ch op s.connection
    rw [(hop ch s.connection).1, (hop ch s.connection).2] at hmove
    rw [hs, hchannels, hconnection]
    exact hmove.moves

theorem deleteChannel_found {s : Studio σ} {id : String} {ch : Channel}
    (hf : s.find? id = some ch) :
    ∃ before after, s.channels = before ++ ch :: after ∧
      (s.deleteChannel id).studio.connection = (ch.stop s.connection).connection ∧
      ((∃ error, (s.deleteChannel id).result = .error error ∧
          (s.deleteChannel id).studio.channels =
            before ++ (ch.stop s.connection).channel :: after) ∨
        (ch.stop s.connection).result = .ok () ∧
          (s.deleteChannel id).studio.channels = before ++ after) := by
  obtain ⟨hid, before, after, hs, hbefore⟩ := find?_split hf
  refine ⟨before, after, hs, ?_⟩
  have hid' : (ch.stop s.connection).channel.id = id :=
    (Channel.Operation.stop.id_run ch s.connection).trans hid
  unfold deleteChannel onChannel
  simp only [hf, withChannel]
  generalize ch.stop s.connection = outcome at hid' ⊢
  obtain ⟨error | _, ch', c'⟩ := outcome
  · simp only [hs, replaceFirst_append hbefore hid]
    exact ⟨trivial, .inl ⟨error, rfl, trivial⟩⟩
  · have hgone : (before ++ ch' :: after).eraseP (·.id == id) = before ++ after := by
      rw [List.eraseP_append_right _ fun x hx => by simpa using hbefore x hx,
        List.eraseP_cons_of_pos (by simpa using hid')]
    simp only [hs, replaceFirst_append hbefore hid, hgone]
    exact ⟨trivial, .inr ⟨trivial, trivial⟩⟩

theorem deleteChannel_moves (s : Studio σ) (id : String) :
    Moves (s.channels, s.connection) (Operation.abandoned (.deleteChannel id) s)
      ((s.deleteChannel id).studio.channels, (s.deleteChannel id).studio.connection) := by
  cases hf : s.find? id with
  | none =>
    simp only [Operation.abandoned, deleteChannel, onChannel, hf]
    exact Moves.none (s.channels, s.connection)
  | some ch =>
    simp only [Operation.abandoned, hf]
    obtain ⟨before, after, hs, hc, hcases⟩ := deleteChannel_found hf
    have hmove := Move.run before after ch .stop s.connection
    rw [hs, hc]
    obtain ⟨error, _, hchannels⟩ | ⟨hok, hchannels⟩ := hcases
    · rw [hchannels]
      exact hmove.moves
    · rw [hchannels]
      have hidle := ch.stop_ok_inactive s.connection hok
      have hboth := Moves.more hmove (Move.drop before after _ _ hidle).moves
      rwa [List.append_nil] at hboth

theorem deleteChannel_ok {s : Studio σ} {id : String} (hok : (s.deleteChannel id).result = .ok ()) :
    ∃ before ch after, s.channels = before ++ ch :: after ∧ ch.id = id ∧
      (s.deleteChannel id).studio.channels = before ++ after := by
  cases hf : s.find? id with
  | none =>
    simp only [deleteChannel, onChannel, hf] at hok
    cases hok
  | some ch =>
    obtain ⟨before, after, hs, _, ⟨error, herror, _⟩ | ⟨_, hchannels⟩⟩ := deleteChannel_found hf
    · cases herror.symm.trans hok
    · exact ⟨before, ch, after, hs, (find?_split hf).1, hchannels⟩

omit [Service σ] in
theorem deleteTemplate_same (s : Studio σ) (id : String) :
    (s.deleteTemplate id).studio.channels = s.channels ∧
      (s.deleteTemplate id).studio.connection = s.connection := by
  unfold deleteTemplate
  cases s.template? id with
  | none => exact ⟨rfl, rfl⟩
  | some t =>
    simp only
    split_ifs <;> exact ⟨rfl, rfl⟩

theorem applyTemplate_moves (s : Studio σ) (channel template streamKey : String) :
    Moves (s.channels, s.connection) []
      ((s.applyTemplate channel template streamKey).studio.channels,
        (s.applyTemplate channel template streamKey).studio.connection) := by
  unfold applyTemplate
  cases s.template? template with
  | none => exact .none _
  | some t =>
    have hmoves := s.onChannel_moves channel
      (.addOutput t.platform streamKey t.orientation t.encoding)
      (fun ch c => ⟨.ok (ch.applyTemplate t streamKey).1, (ch.applyTemplate t streamKey).2, c⟩)
      fun _ _ => ⟨rfl, rfl⟩
    cases hf : s.find? channel <;> simp only [hf] at hmoves <;> exact hmoves

theorem startAll_moves (s : Studio σ) :
    Moves (s.channels, s.connection) (Operation.startAll.abandoned s)
      (s.startAll.studio.channels, s.startAll.studio.connection) := by
  have hmoves := runEach_moves (fun ch => if ch.autoStart then some .start else none) []
    s.channels s.connection
  rw [← onEach_eq_runEach _ Channel.start .start fun _ _ => ⟨rfl, rfl⟩] at hmoves
  exact hmoves

theorem stopAll_moves (s : Studio σ) :
    Moves (s.channels, s.connection) (Operation.stopAll.abandoned s)
      (s.stopAll.studio.channels, s.stopAll.studio.connection) := by
  have hmoves := runEach_moves (fun _ => some .stop) [] s.channels s.connection
  have heach := onEach_eq_runEach (fun _ => true) Channel.stop .stop (fun _ _ => ⟨rfl, rfl⟩)
    s.channels s.connection
  simp only [if_true] at heach
  rw [← heach] at hmoves
  exact hmoves

theorem tick_moves (s : Studio σ) :
    Moves (s.channels, s.connection) (Operation.tick.abandoned s)
      (s.tick.2.channels, s.tick.2.connection) := by
  have hmoves := runEach_moves (dueOperation s.connection.now) [] s.channels s.connection
  rw [← tickEach_eq_runEach] at hmoves
  exact hmoves

/-- A new channel, or a copy of one of the studio. -/
inductive Added (s : Studio σ) : Channel → Prop where
  | new (id name : String) : Added s { id, name }
  | copy {ch : Channel} (hch : ch ∈ s.channels) (id name : String) : Added s (ch.duplicate id name)

/-- An operation brings no id into the studio and is a sequence of moves, or it brings in one and
adds a channel of that id. -/
theorem Operation.moves_or_adds (op : Operation) (s : Studio σ) :
    (op.generated s = [] ∧ Moves (s.channels, s.connection) (op.abandoned s)
        ((op.run s).studio.channels, (op.run s).studio.connection)) ∨
      ∃ ch, Added s ch ∧ op.generated s = [ch.id] ∧ op.abandoned s = [] ∧
        (op.run s).studio = { s with channels := s.channels ++ [ch] } := by
  cases op with
  | createChannel id name => exact .inr ⟨_, .new id name, rfl, rfl, rfl⟩
  | duplicateChannel source id name =>
    simp only [Operation.generated, Operation.run, Outcome.answering, Operation.abandoned,
      Studio.duplicateChannel]
    cases hf : s.find? source with
    | none => exact .inl ⟨rfl, .none _⟩
    | some ch =>
      exact .inr ⟨_, .copy (List.mem_of_find?_eq_some hf) id name, if_pos rfl, trivial, rfl⟩
  | deleteChannel id => exact .inl ⟨rfl, s.deleteChannel_moves id⟩
  | onChannel id operation =>
    exact .inl ⟨rfl, s.onChannel_moves id operation operation.run fun _ _ => ⟨rfl, rfl⟩⟩
  | startAll => exact .inl ⟨rfl, s.startAll_moves⟩
  | stopAll => exact .inl ⟨rfl, s.stopAll_moves⟩
  | tick => exact .inl ⟨rfl, s.tick_moves⟩
  | createTemplate => exact .inl ⟨rfl, .none _⟩
  | deleteTemplate id =>
    have hsame := s.deleteTemplate_same id
    refine .inl ⟨rfl, ?_⟩
    change Moves _ []
      ((s.deleteTemplate id).studio.channels, (s.deleteTemplate id).studio.connection)
    rw [hsame.1, hsame.2]
    exact .none _
  | applyTemplate channel template streamKey =>
    exact .inl ⟨rfl, s.applyTemplate_moves channel template streamKey⟩

end Studio

end Simulcast
