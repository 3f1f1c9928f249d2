import Simulcast.Proofs.Studio.Origins

/-!
# Following an operation through a studio

An operation on a studio is followed through the channels and the connection one operation on a
channel at a time. What every such operation keeps, that may be asked for, the whole one keeps.
-/

namespace Simulcast

namespace Studio

variable {σ : Type} [Service σ] {I : List Channel → Connection σ → Prop}

theorem runEach_induction {choose : Channel → Option Channel.Operation}
    (hrun : ∀ before ch after o c, choose ch = some o → I (before ++ ch :: after) c →
      I (before ++ (o.run ch c).channel :: after) (o.run ch c).connection)
    (before : List Channel) {channels : List Channel} {c : Connection σ}
    (h : I (before ++ channels) c) :
    I (before ++ (runEach choose channels c).1) (runEach choose channels c).2 := by
  induction channels generalizing before c with
  | nil => exact h
  | cons ch rest ih =>
    cases hc : choose ch with
    | none =>
      have hrest := ih (before ++ [ch]) (by simpa using h)
      simp only [List.append_assoc, List.singleton_append] at hrest
      simp only [runEach, hc]
      exact hrest
    | some o =>
      have hfirst := hrun before ch rest o c hc h
      have hrest := ih (before ++ [(o.run ch c).channel]) (by simpa using hfirst)
      simp only [List.append_assoc, List.singleton_append] at hrest
      simp only [runEach, hc]
      exact hrest

omit [Service σ] in
theorem onChannel_induction {s : Studio σ} {id : String}
    {operation : Channel → Connection σ → Channel.Outcome σ α}
    (hrun : ∀ before ch after, ch.id = id → I (before ++ ch :: after) s.connection →
      I (before ++ (operation ch s.connection).channel :: after)
        (operation ch s.connection).connection)
    (h : I s.channels s.connection) :
    I (s.onChannel id operation).studio.channels (s.onChannel id operation).studio.connection := by
  cases hf : s.find? id with
  | none =>
    simp only [onChannel, hf]
    exact h
  | some ch =>
    obtain ⟨before, after, hs, hchannels, hconnection⟩ := onChannel_found hf operation
    rw [hs] at h
    rw [hchannels, hconnection]
    exact hrun before ch after (find?_split hf).1 h

/-- What is kept by every operation on a channel that may be asked for, by dropping a channel that
is inactive, and by adding one, is kept by the operation on the studio. -/
theorem Operation.run_induction (op : Operation) {s : Studio σ}
    (hrun : ∀ before ch after o c, op.Asks s ch o c → I (before ++ ch :: after) c →
      I (before ++ (o.run ch c).channel :: after) (o.run ch c).connection)
    (hdrop : ∀ before ch after c, ch.status = .inactive → I (before ++ ch :: after) c →
      I (before ++ after) c)
    (hadd : ∀ ch, Added s ch → op.generated s = [ch.id] → I (s.channels ++ [ch]) s.connection)
    (h : I s.channels s.connection) :
    I (op.run s).studio.channels (op.run s).studio.connection := by
  have each {choose : Channel → Option Channel.Operation}
      (hasks : ∀ ch o c, choose ch = some o → op.Asks s ch o c) :
      I (runEach choose s.channels s.connection).1 (runEach choose s.channels s.connection).2 :=
    runEach_induction (fun before ch after o c hc => hrun before ch after o c (hasks ch o c hc))
      [] h
  cases op with
  | createChannel id name => exact hadd _ (.new id name) rfl
  | duplicateChannel source id name =>
    simp only [Operation.run, Outcome.answering, Studio.duplicateChannel, Operation.generated]
      at hadd ⊢
    cases hf : s.find? source with
    | none => exact h
    | some ch =>
      exact hadd _ (.copy (List.mem_of_find?_eq_some hf) id name) (by rw [hf]; rfl)
  | deleteChannel id =>
    cases hf : s.find? id with
    | none =>
      simp only [Operation.run, Outcome.answering, Studio.deleteChannel, Studio.onChannel, hf]
      exact h
    | some ch =>
      obtain ⟨before, after, hs, hconnection, hcases⟩ := deleteChannel_found hf
      simp only [Operation.run, Outcome.answering, hconnection]
      rw [hs] at h
      have hstop := hrun before ch after .stop s.connection ⟨(find?_split hf).1.symm, rfl⟩ h
      obtain ⟨error, _, hchannels⟩ | ⟨hok, hchannels⟩ := hcases
      · rw [hchannels]
        exact hstop
      · rw [hchannels]
        exact hdrop before _ after _ (ch.stop_ok_inactive s.connection hok) hstop
  | onChannel id operation =>
    exact onChannel_induction (fun before ch after hid =>
      hrun before ch after operation s.connection ⟨hid.symm, rfl, rfl⟩) h
  | startAll =>
    have hsame := onEach_eq_runEach (·.autoStart) Channel.start .start (fun _ _ => ⟨rfl, rfl⟩)
      s.channels s.connection
    simp only [Operation.run, Outcome.answering, Studio.startAll, bulk, hsame]
    exact each fun ch o c hc => (Option.some.inj (Option.ite_none_right_eq_some.mp hc).2).symm
  | stopAll =>
    have hsame := onEach_eq_runEach (fun _ => true) Channel.stop .stop (fun _ _ => ⟨rfl, rfl⟩)
      s.channels s.connection
    simp only [Operation.run, Outcome.answering, Studio.stopAll, bulk, hsame]
    exact each fun ch o c hc => (Option.some.inj hc).symm
  | tick =>
    have hsame := tickEach_eq_runEach s.connection.now s.channels s.connection
    simp only [Operation.run, Studio.tick, hsame]
    exact each fun ch o c hc => dueOperation_cases hc
  | createTemplate => exact h
  | deleteTemplate id =>
    have hsame := s.deleteTemplate_same id
    simp only [Operation.run, Outcome.answering, hsame.1, hsame.2]
    exact h
  | applyTemplate channel template streamKey =>
    simp only [Operation.run, Outcome.answering, Studio.applyTemplate]
    cases s.template? template with
    | none => exact h
    | some t =>
      exact onChannel_induction (fun before ch after hid =>
        hrun before ch after (.addOutput t.platform streamKey t.orientation t.encoding)
          s.connection ⟨hid.symm, rfl⟩) h

end Studio

end Simulcast
