import Simulcast.Proofs.Channel.Refusals
import Simulcast.Proofs.Studio.Runs

/-!
# Input errors change nothing

A studio asks its channels for operations that check before they act, and checks what it is asked
for itself in the same way. So an operation on a studio that ends in an input error leaves the
studio exactly as it was, with its channels, its templates and its connection.
-/

namespace Simulcast

namespace Studio

variable {σ : Type}

theorem onChannel_same {s : Studio σ} {id : String} {ch : Channel} (hf : s.find? id = some ch)
    {operation : Channel → Connection σ → Channel.Outcome σ α}
    (h : (operation ch s.connection).channel = ch ∧
      (operation ch s.connection).connection = s.connection) :
    (s.onChannel id operation).studio = s := by
  obtain ⟨hid, before, after, hs, hbefore⟩ := find?_split hf
  have hreplaced : replaceFirst id ch s.channels = s.channels := by
    rw [hs]
    exact replaceFirst_append hbefore hid ch after
  simp only [onChannel, hf, h.1, h.2, withChannel, hreplaced]

/-- An operation on a channel that checks before it acts is asked for without effect when that ends
in an input error. -/
theorem onChannel_refused {s : Studio σ} {id : String}
    {operation : Channel → Connection σ → Channel.Outcome σ α}
    (hchecks : ∀ ch, (operation ch s.connection).ChecksFirst ch s.connection)
    {error : ChannelError} (h : (s.onChannel id operation).result = .error error)
    (hinput : error.isInputError = true) : (s.onChannel id operation).studio = s := by
  cases hf : s.find? id with
  | none => simp only [onChannel, hf]
  | some ch =>
    have hresult : (operation ch s.connection).result = .error error := by
      simpa only [onChannel, hf] using h
    exact onChannel_same hf (hchecks ch error hresult hinput)

theorem bulk_admitted (s : Studio σ) (asks : Channel → Bool)
    (operation : Channel → Connection σ → Channel.Outcome σ Unit) :
    Channel.Admitted (s.bulk asks operation).result :=
  Channel.bulkResult_admitted _ _

theorem result_of_answering {o : Outcome σ α} {answer : α → Answer} {error : ChannelError}
    (h : (o.answering answer).result = .error error) : o.result = .error error := by
  obtain ⟨failure | value, s⟩ := o
  · cases h
    rfl
  · cases h

variable [Service σ]

theorem deleteChannel_refused {s : Studio σ} {id : String} {error : ChannelError}
    (h : (s.deleteChannel id).result = .error error) (hinput : error.isInputError = true) :
    (s.deleteChannel id).studio = s := by
  have hstop : (s.onChannel id Channel.stop).result = .error error →
      (s.onChannel id Channel.stop).studio = s := fun hr =>
    onChannel_refused (fun ch => ch.stop_checksFirst s.connection) hr hinput
  unfold deleteChannel at h ⊢
  generalize s.onChannel id Channel.stop = stopped at h hstop ⊢
  obtain ⟨failure | _, s'⟩ := stopped
  · obtain rfl : failure = error := Except.error.inj h
    exact hstop rfl
  · cases h

/-- Whatever a studio is asked for, if the answer is an input error, then every channel, every
template, the session, the clock and the service are exactly as before. -/
theorem input_error_changes_nothing (op : Operation) (s : Studio σ) {error : ChannelError}
    (h : (op.run s).result = .error error) (hinput : error.isInputError = true) :
    (op.run s).studio = s := by
  cases op with
  | createChannel | createTemplate | tick => cases h
  | duplicateChannel source id name =>
    have h := result_of_answering h
    simp only [Operation.run, Outcome.answering, duplicateChannel] at h ⊢
    cases hf : s.find? source with
    | none => rfl
    | some ch =>
      rw [hf] at h
      cases h
  | deleteChannel id => exact deleteChannel_refused (result_of_answering h) hinput
  | onChannel id operation =>
    exact onChannel_refused (fun ch => operation.run_checksFirst ch s.connection)
      (result_of_answering h) hinput
  | startAll | stopAll =>
    have hadmitted := s.bulk_admitted _ _ error (result_of_answering h)
    rw [hadmitted] at hinput
    cases hinput
  | deleteTemplate id =>
    have h := result_of_answering h
    simp only [Operation.run, Outcome.answering, deleteTemplate] at h ⊢
    cases ht : s.template? id with
    | none => rfl
    | some t =>
      simp only [ht] at h ⊢
      split_ifs with hbuiltin
      · rfl
      · rw [if_neg hbuiltin] at h
        cases h
  | applyTemplate channel template streamKey =>
    have h := result_of_answering h
    simp only [Operation.run, Outcome.answering, applyTemplate] at h ⊢
    cases ht : s.template? template with
    | none => rfl
    | some t =>
      simp only [ht] at h ⊢
      exact onChannel_refused (fun ch => .of_admitted (Channel.admitted_ok _)) h hinput

/-- A channel on the air whose output has no backup to fail over to. -/
theorem input_error_changes_nothing_onAir :
    let op := Operation.onChannel "channel" (.triggerFailover 0)
    (op.run onAir).result = .error (.noBackup 0) ∧
      (ChannelError.noBackup 0).isInputError = true ∧ (op.run onAir).studio = onAir := by
  have hrefused : ((Operation.onChannel "channel" (.triggerFailover 0)).run onAir).result =
      .error (.noBackup 0) := by decide
  exact ⟨hrefused, rfl, input_error_changes_nothing _ onAir hrefused rfl⟩

end Studio

end Simulcast
