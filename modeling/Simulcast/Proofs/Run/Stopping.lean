import Simulcast.Proofs.Channel.Previewing
import Simulcast.Proofs.Process.Granted
import Simulcast.Proofs.Run.Isolation

/-!
# Stopping again

A stop that fails changes nothing of the channel but its status and its last error. So the channel
still refers to its process, and however far the first attempt came, a second one finds what is left
of that process and takes it down once the service fails no call.
-/

namespace Simulcast

namespace Channel

variable {σ : Type} [Service σ]

/-- The ways to take the process of a channel down, where they are permitted. -/
inductive TakesDown (ch : Channel) (c : Connection σ) : Outcome σ Unit → Prop where
  | stop (h : ch.Stoppable) : TakesDown ch c (ch.stop c)
  | cancel (h : ch.status = .preview ∨ (ch.status = .error ∧ ch.isPreviewing = true)) :
      TakesDown ch c (ch.cancelPreview c)

theorem TakesDown.eq_stopRemote {ch : Channel} {c : Connection σ} {outcome : Outcome σ Unit}
    (h : ch.TakesDown c outcome) : outcome = ch.stopRemote c := by
  cases h with
  | stop h => exact stop_eq_stopRemote h c
  | cancel h => exact if_pos h

theorem stopRemote_failed {ch : Channel} {c : Connection σ} {error : ChannelError}
    (hr : (ch.stopRemote c).result = .error error) :
    (ch.stopRemote c).channel = ch.failed error ∧ ch.processReference ≠ none := by
  obtain ⟨error', hdown, hr', hch⟩ | ⟨hok, _⟩ := ch.stopRemote_cases c
  · obtain rfl := Except.error.inj (hr.symm.trans hr')
    refine ⟨hch, fun hnone => ?_⟩
    simp only [teardown, hnone] at hdown
    cases hdown
  · cases hr.symm.trans hok

theorem stopRemote_of_teardown {ch : Channel} {c : Connection σ}
    (h : (ch.teardown c).1 = .ok ()) :
    ch.stopRemote c = ⟨.ok (), ch.stopped, (ch.teardown c).2⟩ := by
  have hsame : ({ ch with status := .stopping } : Channel).teardown c = ch.teardown c := rfl
  simp only [stopRemote, hsame]
  generalize ch.teardown c = down at h ⊢
  obtain ⟨result, c'⟩ := down
  obtain rfl : result = .ok () := h
  rfl

end Channel

namespace Studio

/-- Whatever occurred since a studio was new, a stop or a permitted cancellation that fails changes
the status and the last error of the channel and nothing else of it. Whatever occurs until the
channel is stopped again, when no call fails then and the session can log in, the channel is
inactive afterwards, and no process is left under its reference. -/
theorem failed_stop_is_retried (settings : Settings) (clock : Clock) (username password : String)
    (occurrences : List Occurrence) :
    let s := after occurrences (fresh settings clock username password)
    ∀ ch ∈ s.channels, ∀ outcome error, ch.TakesDown s.connection outcome →
      outcome.result = .error error →
        outcome.channel = { ch with status := .error, lastError := some error.message } ∧
        ∀ later : List Occurrence,
          let s' := { s with connection := outcome.connection }.withChannel ch.id outcome.channel
          let d := (after later s').connection
          Authenticates d →
            let again := outcome.channel.stop d
            again.result = .ok () ∧ again.channel.status = .inactive ∧
              again.channel.processReference = none ∧ again.channel.preview = none ∧
              ∀ p ∈ again.connection.remote.processes, p.info.reference ≠ ch.id := by
  intro s ch hch outcome error hdown hr
  have hreachable : Reachable s := (Reachable.opened _).after occurrences
  have hsettled : ch.Settled := (hreachable.channel ch hch).settled
  have hnamed : s.connection.remote.Named := after_named (named_fresh _ _ _ _) occurrences
  obtain rfl := hdown.eq_stopRemote
  obtain ⟨hfailed, hrefers⟩ := Channel.stopRemote_failed hr
  refine ⟨hfailed, ?_⟩
  intro later s' d hgranted again
  have hleft : (ch.stopRemote s.connection).connection.remote.Named :=
    Channel.stopRemote_handled Connection.steady_named.handling
      ⟨fun _ _ => trivial, trivial⟩ s.connection hnamed
  have hd : d.remote.Named := after_named (s := s') hleft later
  obtain ⟨hok, hnone⟩ := (ch.failed error).teardown_granted hgranted
  have hagain : again = ⟨.ok (), (ch.failed error).stopped, ((ch.failed error).teardown d).2⟩ := by
    simp only [again, hfailed]
    exact (Channel.stop_eq_stopRemote (.inr (.inr rfl)) d).trans
      (Channel.stopRemote_of_teardown hok)
  have hown : ch.processReference = some ch.id := hsettled.own.resolve_left hrefers
  rw [hagain]
  refine ⟨rfl, rfl, rfl, rfl, fun p hp he => ?_⟩
  have hmem : p ∈ ((ch.failed error).teardown d).2.remote.held ch.id :=
    Simulated.mem_held.mpr ⟨hp, he⟩
  rw [hnone hd ch.id hown] at hmem
  exact List.not_mem_nil hmem

def interruptedRun : List Occurrence := startRun.map .event ++ [.event (.failNext .command 1)]

theorem failed_stop_is_retried_interrupted :
    let s := after interruptedRun (fresh account (.startingAt 0) "user" "secret")
    ∃ ch ∈ s.channels, ch.status = .active ∧
      let error : ChannelError := .remote (Simulated.simulatedFailure .command)
      let outcome := ch.stop s.connection
      let again := outcome.channel.stop outcome.connection
      outcome.result = .error error ∧
        outcome.channel = { ch with status := .error, lastError := some error.message } ∧
        again.result = .ok () ∧ again.channel.status = .inactive ∧
        again.channel.processReference = none ∧ again.channel.preview = none ∧
        ∀ p ∈ again.connection.remote.processes, p.info.reference ≠ ch.id := by
  intro s
  have hall : ∀ ch ∈ s.channels, ch.status = .active ∧
      (ch.stop s.connection).result =
        .error (.remote (Simulated.simulatedFailure .command)) ∧
      (∀ kind ∈ CallKind.all, (ch.stop s.connection).connection.remote.failures kind = 0) ∧
      (ch.stop s.connection).connection.authenticate.result = .ok "access-1" ∧
      "access-1" ∈ (ch.stop s.connection).connection.authenticate.connection.remote.accessTokens :=
    by decide
  obtain ⟨ch, hch⟩ := List.exists_mem_of_ne_nil s.channels (by decide)
  obtain ⟨hactive, hfailed, hfailures, htoken, haccepted⟩ := hall ch hch
  obtain ⟨hchannel, hagain⟩ := failed_stop_is_retried account (.startingAt 0) "user" "secret"
    interruptedRun ch hch _ _ (.stop (.inl hactive)) hfailed
  refine ⟨ch, hch, hactive, hfailed, hchannel, hagain [] ⟨fun kind => ?_, _, htoken, haccepted⟩⟩
  exact hfailures kind (by cases kind <;> decide)

end Studio

end Simulcast
