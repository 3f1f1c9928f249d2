import Simulcast.Proofs.Channel.PreviewStatus
import Simulcast.Proofs.Failover.Checking
import Simulcast.Proofs.Failover.Wiring

/-!
# What disturbs the failovers

Along a run the failovers agree with the links until an operation disturbs them: it takes a link or
the partner from an output that is failed over. Taking a link leaves the moment of the failover
behind, or the flag as well; taking the partner happens where one output is the backup of another
and has a backup itself.
-/

namespace Simulcast

namespace Channel

variable {σ : Type} [Service σ] {ch : Channel}

/-! ### The moment is always there -/

theorem Linked.removeOutput_loosened {ch' : Channel} (h : ch.Linked) {index : Nat}
    (hr : ch.removeOutput index = .ok ch') : ch.Loosened ch' :=
  removeOutput_eq hr ▸ h.distinct.drop_loosened index

theorem Linked.removeOutputBackup_loosened {ch' : Channel} (h : ch.Linked) {primary : Nat}
    (hr : ch.removeOutputBackup primary = .ok ch') : ch.Loosened ch' := by
  obtain ⟨p, b, hpb, rfl⟩ := removeOutputBackup_eq h.distinct hr
  exact h.parted_loosened hpb

theorem Linked.bulkRemoveOutputs_loosened (h : ch.Linked) (indices : List Nat) :
    ch.Loosened (ch.bulkRemoveOutputs indices).2 := by
  have hboth := bulkRemoveOutputs_induction (motive := fun ch' => ch.Loosened ch' ∧ ch'.Linked)
    (fun _ _ _ h hr => ⟨h.1.trans (h.2.removeOutput_loosened hr), h.2.remove hr⟩)
    ⟨.refl ch, h⟩ indices
  exact hboth.1

/-- Outputs are taken away, or a backup link is. -/
def Operation.loosens : Operation → Bool
  | .removeOutput _ | .bulkRemoveOutputs _ | .removeOutputBackup _ => true
  | _ => false

theorem Linked.run_loosened (h : ch.Linked) {op : Operation} (hop : op.loosens) (c : Connection σ) :
    ch.Loosened (op.run ch c).channel := by
  have edited {edit : Except ChannelError Channel}
      (hedit : ∀ ch', edit = .ok ch' → ch.Loosened ch') :
      ch.Loosened (Outcome.edited ch edit c).channel := by
    cases edit with
    | ok ch' => exact hedit ch' rfl
    | error => exact .refl ch
  cases op with
  | removeOutput index => exact edited fun _ => h.removeOutput_loosened
  | removeOutputBackup primary => exact edited fun _ => h.removeOutputBackup_loosened
  | bulkRemoveOutputs indices => exact h.bulkRemoveOutputs_loosened indices
  | _ => cases hop

theorem setOutputBackup_channel (hl : ch.Linked) (primary backup : Nat) (c : Connection σ) :
    (∃ p b, ch.Relinks primary backup p b ∧
      ((Operation.setOutputBackup primary backup).run ch c).channel =
        ch.changeOutputs (Output.linked p.id b.id)) ∨
    ((¬ ∃ p b, ch.Relinks primary backup p b) ∧
      ((Operation.setOutputBackup primary backup).run ch c).channel = ch) := by
  by_cases hnew : ∃ p b, ch.Relinks primary backup p b
  · obtain ⟨p, b, hr⟩ := hnew
    refine .inl ⟨p, b, hr, ?_⟩
    simp only [Operation.run, (hr.run hl).2]
    rfl
  · refine .inr ⟨hnew, ?_⟩
    simp only [Operation.run]
    cases hs : ch.setOutputBackup primary backup with
    | error error => rfl
    | ok ch' => exact setOutputBackup_same hs hnew

theorem Stamped.run (h : ch.Stamped) (hl : ch.Linked) (op : Operation) (c : Connection σ) :
    (op.run ch c).channel.Stamped := by
  cases op with
  | addOutput platform streamKey orientation encoding =>
    exact h.add platform streamKey orientation encoding
  | removeOutput | removeOutputBackup | bulkRemoveOutputs =>
    exact (hl.run_loosened rfl c).stamped h
  | setOutputBackup primary backup =>
    rcases setOutputBackup_channel hl primary backup c with ⟨p, b, _, hch⟩ | ⟨_, hch⟩
    · rw [hch]
      exact h.linked p.id b.id
    · rw [hch]
      exact h
  | triggerFailover primary => exact h.triggerFailover hl primary c
  | restorePrimary primary => exact h.restorePrimary hl primary c
  | checkFailover => exact h.checkFailover hl c
  | _ => exact h.of_stances (Operation.stances_run rfl ch c)

theorem stamped_of_idle (h : ∀ o ∈ ch.outputs, o.failoverActive = false) : ch.Stamped := by
  intro o ho hactive
  rw [h o ho] at hactive
  cases hactive

theorem Reachable.stamped (h : Reachable σ ch) : ch.Stamped := by
  induction h with
  | new => exact stamped_of_idle fun _ ho => nomatch ho
  | duplicate id name _ _ =>
    exact stamped_of_idle (List.forall_mem_map.mpr fun _ _ => rfl)
  | run op c hch ih => exact ih.run hch.linked op c

theorem agrees_of_idle
    (h : ∀ o ∈ ch.outputs, o.failoverActive = false ∧ o.failoverStart = none) :
    ch.FailoversAgree := by
  refine fun o ho => ⟨fun hactive => ?_, fun _ => (h o ho).2⟩
  rw [(h o ho).1] at hactive
  cases hactive

/-! ### Disturbances -/

/-- The operation takes a link or its partner from an output that is failed over. -/
def Operation.disturbs (op : Operation) (ch : Channel) (c : Connection σ) : Prop :=
  match op with
  | .removeOutput _ | .bulkRemoveOutputs _ | .removeOutputBackup _ =>
    ch.Severs (op.run ch c).channel
  | .setOutputBackup primary backup => ∃ p b, ch.Relinks primary backup p b ∧ ch.Uproots p b
  | .triggerFailover primary => ch.Overtakes primary c
  | .restorePrimary primary => ch.Strands primary c
  | .checkFailover => ch.status = .active ∧ OvertakesAmong ch.failoverCandidates ch c
  | _ => False

theorem setOutputBackup_agrees_iff (hl : ch.Linked) (ha : ch.FailoversAgree) (primary backup : Nat)
    (c : Connection σ) :
    ((Operation.setOutputBackup primary backup).run ch c).channel.FailoversAgree ↔
      ¬ ∃ p b, ch.Relinks primary backup p b ∧ ch.Uproots p b := by
  have relinked {p b : Output} (hr : ch.Relinks primary backup p b) :
      ((Operation.setOutputBackup primary backup).run ch c).channel.FailoversAgree ↔
        ¬ ch.Uproots p b := by
    obtain ⟨hne, hrun⟩ := hr.run hl
    simp only [Operation.run, hrun]
    exact hl.distinct.agrees_linked_iff ha (List.mem_of_getElem? hr.atPrimary)
      (List.mem_of_getElem? hr.atBackup) hne
  constructor
  · rintro hafter ⟨p, b, hr, huproots⟩
    exact (relinked hr).mp hafter huproots
  · intro hnot
    rcases setOutputBackup_channel hl primary backup c with ⟨p, b, hr, _⟩ | ⟨_, hch⟩
    · exact (relinked hr).mpr fun huproots => hnot ⟨p, b, hr, huproots⟩
    · rw [hch]
      exact ha

theorem Operation.failovers_agree_run_iff (op : Operation) (h : Reachable σ ch)
    (ha : ch.FailoversAgree) (c : Connection σ) :
    (op.run ch c).channel.FailoversAgree ↔ ¬ op.disturbs ch c := by
  have hl := h.linked
  cases op with
  | addOutput platform streamKey orientation encoding =>
    exact iff_of_true (ha.add platform streamKey orientation encoding) not_false
  | removeOutput | removeOutputBackup | bulkRemoveOutputs =>
    exact (hl.run_loosened rfl c).agrees_iff hl.distinct h.stamped ha
  | setOutputBackup primary backup => exact setOutputBackup_agrees_iff hl ha primary backup c
  | triggerFailover primary => exact triggerFailover_agrees_iff hl ha primary c
  | restorePrimary primary => exact restorePrimary_agrees_iff hl ha primary c
  | checkFailover => exact checkFailover_agrees_iff hl ha c
  | _ => exact iff_of_true (ha.of_stances (Operation.stances_run rfl ch c)) not_false

/-- Along a run of operations, each over any connection, the failovers agree with the links as long
as no operation disturbs them, and no longer. A copy of a channel starts out without failovers. -/
theorem failovers_agree_iff_undisturbed (h : Reachable σ ch) (ha : ch.FailoversAgree)
    (steps : List (Operation × Connection σ)) :
    ((∀ x ∈ ch.visited steps, x.FailoversAgree) ↔ ¬ ch.Meets Operation.disturbs steps) ∧
      ∀ id name, ((ch.after steps).duplicate id name).FailoversAgree := by
  refine ⟨?_, fun id name => agrees_of_idle (List.forall_mem_map.mpr fun _ _ => ⟨rfl, rfl⟩)⟩
  induction steps generalizing ch with
  | nil => exact iff_of_true (List.forall_mem_singleton.mpr ha) not_false
  | cons step rest ih =>
    obtain ⟨op, c⟩ := step
    simp only [visited, Meets, List.forall_mem_cons, not_or]
    have hnext := op.failovers_agree_run_iff h ha c
    constructor
    · rintro ⟨_, hrest⟩
      have hagrees := hrest _ (mem_visited _ rest)
      exact ⟨hnext.mp hagrees, (ih (h.run op c) hagrees).mp hrest⟩
    · rintro ⟨hfirst, hrest⟩
      exact ⟨ha, (ih (h.run op c) (hnext.mpr hfirst)).mpr hrest⟩

/-! ### A primary and its backup -/

def unasked : Connection Simulated :=
  .fresh { host := "localhost", port := 8080 } (.startingAt 0) { username := "", password := "" }

def failover (next : Operation) : List (Operation × Connection Simulated) :=
  [(.triggerFailover 0, unasked), (next, unasked)]

def flags (ch : Channel) : List (Bool × Option Nat) :=
  ch.outputs.map fun o => (o.failoverActive, o.failoverStart)

theorem failovers_agree_iff_undisturbed_restored :
    let ch := paired unasked
    let steps := failover (.restorePrimary 0)
    Reachable Simulated ch ∧ ch.FailoversAgree ∧
      ((∀ x ∈ ch.visited steps, x.FailoversAgree) ↔ ¬ ch.Meets Operation.disturbs steps) ∧
      (ch.visited steps).map flags =
        [[(false, none), (false, none)], [(true, some 0), (true, some 0)],
          [(false, none), (false, none)]] := by
  intro ch steps
  have hidle : ch.FailoversAgree := agrees_of_idle (by decide)
  have hreachable := paired_reachable unasked
  exact ⟨hreachable, hidle, (failovers_agree_iff_undisturbed hreachable hidle steps).1, by decide⟩

/-- The backup link is removed while the two are failed over. They are not any more, and still have
the moment since when they were. -/
theorem parted_failover_keeps_moment :
    let ch := (paired unasked).after (failover (.removeOutputBackup 0))
    Reachable Simulated ch ∧ ch.flags = [(false, some 0), (false, some 0)] ∧
      ¬ ch.FailoversAgree := by
  intro ch
  have hflags : ch.flags = [(false, some 0), (false, some 0)] := by decide
  have hstale : ∃ o ∈ ch.outputs, o.failoverActive = false ∧ o.failoverStart ≠ none := by decide
  refine ⟨.run _ _ (.run _ _ (paired_reachable unasked)), hflags, fun ha => ?_⟩
  obtain ⟨o, ho, hactive, hstart⟩ := hstale
  exact hstart ((ha o ho).unstamped hactive)

end Channel

end Simulcast
