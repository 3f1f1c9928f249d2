import Simulcast.Proofs.Channel.Previewing
import Simulcast.Proofs.Names
import Simulcast.Proofs.Studio.Runs

/-!
# Where the channels after an operation come from

A channel of a studio is new there, or a channel from before the operation, as it was or after one
of the operations on channels that the operation on the studio consists of. So what a channel can
become is known from those: a preview goes onto the air by going live and by a restart, and by
nothing else that a studio can be asked to do.
-/

namespace Simulcast

namespace Studio

variable {σ : Type} [Service σ]

/-- The operation on the studio runs this operation on the channel, over this connection. -/
def Operation.Asks (op : Operation) (s : Studio σ) (ch : Channel) (o : Channel.Operation)
    (c : Connection σ) : Prop :=
  match op with
  | .onChannel id operation => id = ch.id ∧ o = operation ∧ c = s.connection
  | .deleteChannel id => id = ch.id ∧ o = .stop
  | .startAll => o = .start
  | .stopAll => o = .stop
  | .tick => o = .checkHealth ∨ o = .cancelPreview
  | .applyTemplate id _ _ => id = ch.id ∧ o.kind = .wiring
  | _ => False

omit [Service σ] in
theorem Operation.Asks.onChannel {op : Operation} {s : Studio σ} {ch : Channel}
    {o : Channel.Operation} {c : Connection σ} (h : op.Asks s ch o c)
    (ho : o = .goLive ∨ o = .restart) : op = .onChannel ch.id o ∧ c = s.connection := by
  cases op with
  | onChannel id operation =>
    obtain ⟨rfl, rfl, rfl⟩ := h
    exact ⟨rfl, rfl⟩
  | deleteChannel =>
    obtain ⟨_, rfl⟩ := h
    rcases ho with ho | ho <;> cases ho
  | startAll | stopAll =>
    obtain rfl := h
    rcases ho with ho | ho <;> cases ho
  | tick => rcases h with rfl | rfl <;> rcases ho with ho | ho <;> cases ho
  | applyTemplate => rcases ho with rfl | rfl <;> cases h.2
  | _ => exact h.elim

theorem dueOperation_cases {now : Instant} {ch : Channel} {o : Channel.Operation}
    (h : dueOperation now ch = some o) : o = .checkHealth ∨ o = .cancelPreview := by
  unfold dueOperation at h
  split_ifs at h
  · exact .inl (Option.some.inj h).symm
  · exact .inr (Option.some.inj h).symm

theorem mem_runEach {choose : Channel → Option Channel.Operation} {channels : List Channel}
    {c : Connection σ} {ch' : Channel} (h : ch' ∈ (runEach choose channels c).1) :
    ch' ∈ channels ∨
      ∃ ch ∈ channels, ∃ o, ∃ c' : Connection σ,
        choose ch = some o ∧ ch' = (o.run ch c').channel := by
  induction channels generalizing c with
  | nil => cases h
  | cons ch rest ih =>
    have later {c : Connection σ} (h : ch' ∈ (runEach choose rest c).1) :
        ch' ∈ ch :: rest ∨
          ∃ x ∈ ch :: rest, ∃ o, ∃ c' : Connection σ,
            choose x = some o ∧ ch' = (o.run x c').channel := by
      rcases ih h with hmem | ⟨x, hx, hrun⟩
      · exact .inl (List.mem_cons_of_mem _ hmem)
      · exact .inr ⟨x, List.mem_cons_of_mem _ hx, hrun⟩
    cases hc : choose ch with
    | none =>
      simp only [runEach, hc, List.mem_cons] at h
      rcases h with rfl | h
      · exact .inl List.mem_cons_self
      · exact later h
    | some o =>
      simp only [runEach, hc, List.mem_cons] at h
      rcases h with rfl | h
      · exact .inr ⟨ch, List.mem_cons_self, o, c, hc, rfl⟩
      · exact later h

omit [Service σ] in
theorem mem_onChannel {s : Studio σ} {id : String}
    {operation : Channel → Connection σ → Channel.Outcome σ α} {ch' : Channel}
    (h : ch' ∈ (s.onChannel id operation).studio.channels) :
    ch' ∈ s.channels ∨
      ∃ ch ∈ s.channels, id = ch.id ∧ ch' = (operation ch s.connection).channel := by
  cases hf : s.find? id with
  | none =>
    simp only [onChannel, hf] at h
    exact .inl h
  | some ch =>
    obtain ⟨before, after, hs, hchannels, _⟩ := onChannel_found hf operation
    have hsame : ∀ x ∈ before ++ after, x ∈ s.channels := by
      rw [hs]
      exact (forall_split.mp fun x hx => hx).2
    rw [hchannels, List.perm_middle.mem_iff, List.mem_cons] at h
    rcases h with rfl | h
    · exact .inr ⟨ch, List.mem_of_find?_eq_some hf, (find?_split hf).1.symm, rfl⟩
    · exact .inl (hsame ch' h)

theorem deleteChannel_mem {s : Studio σ} {id : String} {ch' : Channel}
    (h : ch' ∈ (s.deleteChannel id).studio.channels) :
    ch' ∈ (s.onChannel id Channel.stop).studio.channels := by
  unfold deleteChannel at h
  generalize s.onChannel id Channel.stop = stopped at h ⊢
  obtain ⟨error | _, s'⟩ := stopped
  · exact h
  · exact List.mem_of_mem_eraseP h

/-- Each channel after an operation was added by it, or was there before and is as it was or as one
of the operations on channels made it. -/
theorem Operation.origin (op : Operation) {s : Studio σ} {ch' : Channel}
    (h : ch' ∈ (op.run s).studio.channels) :
    Added s ch' ∨ ch' ∈ s.channels ∨
      ∃ ch ∈ s.channels, ∃ o c, op.Asks s ch o c ∧ ch' = (o.run ch c).channel := by
  have each {choose : Channel → Option Channel.Operation}
      (hasks : ∀ ch o c, choose ch = some o → op.Asks s ch o c)
      (h : ch' ∈ (runEach choose s.channels s.connection).1) :
      Added s ch' ∨ ch' ∈ s.channels ∨
        ∃ ch ∈ s.channels, ∃ o c, op.Asks s ch o c ∧ ch' = (o.run ch c).channel := by
    rcases mem_runEach h with hmem | ⟨ch, hch, o, c, hc, hrun⟩
    · exact .inr (.inl hmem)
    · exact .inr (.inr ⟨ch, hch, o, c, hasks ch o c hc, hrun⟩)
  cases op with
  | createChannel id name =>
    rcases List.mem_append.mp h with h | h
    · exact .inr (.inl h)
    · obtain rfl := List.mem_singleton.mp h
      exact .inl (.new id name)
  | duplicateChannel source id name =>
    simp only [Operation.run, Outcome.answering, Studio.duplicateChannel] at h
    cases hf : s.find? source with
    | none =>
      rw [hf] at h
      exact .inr (.inl h)
    | some ch =>
      rw [hf] at h
      rcases List.mem_append.mp h with h | h
      · exact .inr (.inl h)
      · obtain rfl := List.mem_singleton.mp h
        exact .inl (.copy (List.mem_of_find?_eq_some hf) id name)
  | deleteChannel id =>
    rcases mem_onChannel (deleteChannel_mem h) with hmem | ⟨ch, hch, hid, hrun⟩
    · exact .inr (.inl hmem)
    · exact .inr (.inr ⟨ch, hch, .stop, s.connection, ⟨hid, rfl⟩, hrun⟩)
  | onChannel id operation =>
    rcases mem_onChannel h with hmem | ⟨ch, hch, hid, hrun⟩
    · exact .inr (.inl hmem)
    · exact .inr (.inr ⟨ch, hch, operation, s.connection, ⟨hid, rfl, rfl⟩, hrun⟩)
  | startAll =>
    have hsame := onEach_eq_runEach (·.autoStart) Channel.start .start (fun _ _ => ⟨rfl, rfl⟩)
      s.channels s.connection
    refine each (fun ch o c hc => ?_) (by rw [← hsame]; exact h)
    exact (Option.some.inj (Option.ite_none_right_eq_some.mp hc).2).symm
  | stopAll =>
    have hsame := onEach_eq_runEach (fun _ => true) Channel.stop .stop (fun _ _ => ⟨rfl, rfl⟩)
      s.channels s.connection
    simp only [if_true] at hsame
    exact each (fun ch o c hc => (Option.some.inj hc).symm) (by rw [← hsame]; exact h)
  | tick =>
    have hsame := tickEach_eq_runEach s.connection.now s.channels s.connection
    exact each (fun ch o c hc => dueOperation_cases hc) (by rw [← hsame]; exact h)
  | createTemplate => exact .inr (.inl h)
  | deleteTemplate id =>
    change ch' ∈ (s.deleteTemplate id).studio.channels at h
    rw [(s.deleteTemplate_same id).1] at h
    exact .inr (.inl h)
  | applyTemplate channel template streamKey =>
    simp only [Operation.run, Outcome.answering, Studio.applyTemplate] at h
    cases ht : s.template? template with
    | none =>
      rw [ht] at h
      exact .inr (.inl h)
    | some t =>
      rw [ht] at h
      rcases mem_onChannel h with hmem | ⟨ch, hch, hid, hrun⟩
      · exact .inr (.inl hmem)
      · exact .inr (.inr ⟨ch, hch, .addOutput t.platform streamKey t.orientation t.encoding,
          s.connection, ⟨hid, rfl⟩, hrun⟩)

omit [Service σ] in
theorem find?_of_mem {s : Studio σ} (hids : (s.channels.map (·.id)).Nodup) {ch : Channel}
    (hch : ch ∈ s.channels) : s.find? ch.id = some ch := find?_name hids hch

omit [Service σ] in
theorem onChannel_result {s : Studio σ} {id : String} {ch : Channel} (hf : s.find? id = some ch)
    (operation : Channel → Connection σ → Channel.Outcome σ α) :
    (s.onChannel id operation).result = (operation ch s.connection).result := by
  simp only [onChannel, hf]

omit [Service σ] in
theorem mem_onChannel_of_find {s : Studio σ} {id : String} {ch : Channel}
    (hf : s.find? id = some ch) (operation : Channel → Connection σ → Channel.Outcome σ α) :
    (operation ch s.connection).channel ∈ (s.onChannel id operation).studio.channels := by
  obtain ⟨before, after, _, hchannels, _⟩ := onChannel_found hf operation
  rw [hchannels]
  exact List.mem_append_right _ List.mem_cons_self

omit [Service σ] in
theorem Added.inactive {s : Studio σ} {ch : Channel} (h : Added s ch) : ch.status = .inactive := by
  cases h <;> rfl

theorem restart_result_iff {s : Studio σ} {ch : Channel} (hf : s.find? ch.id = some ch) :
    ((Operation.onChannel ch.id .restart).run s).result = .ok (.channel .nothing) ↔
      (ch.restart s.connection).result = .ok () := by
  simp only [Operation.run, Outcome.answering, onChannel_result hf, Channel.Operation.run,
    Channel.Outcome.answering]
  cases (ch.restart s.connection).result <;> simp [Except.map]

/-- A channel in a preview is on the air after an operation on the studio exactly when that is the
channel's going live, or a restart of the channel that succeeds. -/
theorem preview_on_air_iff {s : Studio σ} (hids : (s.channels.map (·.id)).Nodup) {ch : Channel}
    (hch : ch ∈ s.channels) (hp : ch.status = .preview) (op : Operation) :
    (∃ ch' ∈ (op.run s).studio.channels, ch'.id = ch.id ∧ ch'.status = .active) ↔
      op = .onChannel ch.id .goLive ∨
        (op = .onChannel ch.id .restart ∧ (op.run s).result = .ok (.channel .nothing)) := by
  have hf := find?_of_mem hids hch
  constructor
  · rintro ⟨ch', hmem, hid, hactive⟩
    rcases op.origin hmem with hadded | hsame | ⟨x, hx, o, c, hasks, rfl⟩
    · cases hadded.inactive.symm.trans hactive
    · obtain rfl : ch' = ch := List.inj_on_of_nodup_map hids hsame hch hid
      cases hp.symm.trans hactive
    · obtain rfl : x = ch := List.inj_on_of_nodup_map hids hx hch ((o.id_run x c).symm.trans hid)
      rcases (o.run_active_iff hp c).mp hactive with rfl | ⟨rfl, hok⟩
      · exact .inl (hasks.onChannel (.inl rfl)).1
      · obtain ⟨rfl, rfl⟩ := hasks.onChannel (.inr rfl)
        exact .inr ⟨rfl, (restart_result_iff hf).mpr hok⟩
  · have answered (o : Channel.Operation) (hactive : (o.run ch s.connection).channel.status =
        .active) : ∃ ch' ∈ ((Operation.onChannel ch.id o).run s).studio.channels,
          ch'.id = ch.id ∧ ch'.status = .active :=
      ⟨_, mem_onChannel_of_find hf o.run, o.id_run ch s.connection, hactive⟩
    rintro (rfl | ⟨rfl, hok⟩)
    · exact answered _ ((Channel.Operation.goLive.run_active_iff hp _).mpr (.inl rfl))
    · refine answered _ ((Channel.Operation.restart.run_active_iff hp _).mpr (.inr ⟨rfl, ?_⟩))
      exact (restart_result_iff hf).mp hok

def previewing : Studio Simulated :=
  [.createChannel "channel" "", .onChannel "channel" (.addOutput .custom "key" .auto {}),
    .onChannel "channel" (.startPreview (.ofSecs 60))].foldl
      (fun s (op : Operation) => (op.run s).studio) opened

theorem preview_on_air_iff_previewing :
    (previewing.channels.map (·.id)).Nodup ∧
      ∀ ch ∈ previewing.channels, ch.status = .preview ∧ ∀ op : Operation,
        ((∃ ch' ∈ (op.run previewing).studio.channels, ch'.id = ch.id ∧ ch'.status = .active) ↔
          op = .onChannel ch.id .goLive ∨
            (op = .onChannel ch.id .restart ∧
              (op.run previewing).result = .ok (.channel .nothing))) := by
  have hids : (previewing.channels.map (·.id)).Nodup := by decide
  have hpreview : ∀ ch ∈ previewing.channels, ch.status = .preview := by decide
  exact ⟨hids, fun ch hch =>
    ⟨hpreview ch hch, preview_on_air_iff hids hch (hpreview ch hch)⟩⟩

/-- The channel was in a preview and never asked to go live; it was restarted, and is on the air. -/
theorem restarted_preview_is_on_air :
    Reachable previewing ∧ previewing.channels.map (fun ch => (ch.id, ch.status)) =
        [("channel", .preview)] ∧
      ((Operation.onChannel "channel" .restart).run previewing).studio.channels.map
        (fun ch => (ch.id, ch.status)) = [("channel", .active)] :=
  ⟨.runs (.opened opened.connection) _, by decide, by decide⟩

end Studio

end Simulcast
