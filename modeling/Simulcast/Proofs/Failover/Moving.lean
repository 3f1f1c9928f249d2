import Simulcast.Proofs.Backup.Cycles
import Simulcast.Proofs.Failover.Disturbances

/-!
# Where the traffic is after a failover

A failover that goes through puts the traffic of the primary on its backup. One of an output that is
failed over already goes through as well and does nothing, though the output may be failed over as
the backup of another, and then carries traffic itself.
-/

namespace Simulcast

namespace Output

/-- The output gave its traffic away in a failover. -/
structure GaveWay (o : Output) : Prop where
  disabled : o.enabled = false
  disconnected : o.connected = false
  flagged : o.failoverActive

/-- The output takes traffic in a failover. -/
structure StandsIn (onAir : Prop) (o : Output) : Prop where
  enabled : o.enabled
  flagged : o.failoverActive
  connected : onAir → o.connected

end Output

namespace Channel

variable {ch ch' : Channel} {primary : Nat} {p b : Output} {since : Nat}

/-- The traffic of the output at a position is on its backup. -/
def OnBackup (ch : Channel) (primary : Nat) : Prop :=
  ∃ backup p b, ch.Pair primary backup p b ∧ p.GaveWay ∧ b.StandsIn (ch.status = .active)

theorem backupIndex?_eq_ends (ch : Channel) (index : Nat) :
    ch.backupIndex? index =
      (ch.wiring.ends[index]?.bind (·.2.1)).bind fun id =>
        ch.wiring.ends.findIdx? (·.1 == id) := by
  simp only [backupIndex?, wiring, List.getElem?_map, Option.bind_map, List.findIdx?_map]
  rfl

theorem backupIndex?_of_wiring (hw : ch'.wiring = ch.wiring) (index : Nat) :
    ch'.backupIndex? index = ch.backupIndex? index := by
  rw [backupIndex?_eq_ends, backupIndex?_eq_ends, hw]

variable {σ : Type} [Service σ] {c : Connection σ}

theorem triggerFailover_flagged (hp : ch.outputs[primary]? = some p) (hflag : p.failoverActive) :
    (ch.triggerFailover primary c).channel = ch := by
  simp only [triggerFailover, hp, hflag, if_true]
  cases ch.backupIndex? primary <;> rfl

theorem failsOver_of_ok (hok : (ch.triggerFailover primary c).result = .ok ())
    (hp : ch.outputs[primary]? = some p) (hidle : p.failoverActive = false) :
    ∃ b since, ch.FailsOver primary c p b since := by
  simp only [triggerFailover, hp] at hok
  cases hindex : ch.backupIndex? primary with
  | none =>
    rw [hindex] at hok
    cases hok
  | some backup =>
    obtain ⟨b, hpair⟩ := Pair.exists_of_index hp hindex
    simp only [hindex, hidle, Bool.false_eq_true, if_false] at hok
    cases hswap : ch.swapIfActive primary backup c with
    | mk result c' =>
      obtain error | _ := result
      · rw [hswap] at hok
        cases hok
      · exact ⟨b, c'.now.unix, hidle, backup, c', hpair, hswap, rfl⟩

theorem FailsOver.pair (h : ch.FailsOver primary c p b since) (hl : ch.Linked) :
    ∃ backup, ch.Pair primary backup p b ∧
      (ch.triggerFailover primary c).channel.Pair primary backup (handedOver since p)
        (tookOver ch.isActive since b) := by
  have hwiring := ch.triggerFailover_wiring primary c
  have hrun := h.run hl
  obtain ⟨backup, c', hpair, _⟩ := h.goes
  have hindex := (backupIndex?_of_wiring hwiring primary).trans hpair.index
  rw [hrun] at hindex ⊢
  refine ⟨backup, hpair, ?_, hindex, ?_⟩
  · rw [getElem?_changeOutputs hpair.atPrimary, if_pos rfl]
  · rw [getElem?_changeOutputs hpair.atBackup, if_neg (hpair.ne hl).symm, if_pos rfl]

theorem FailsOver.onBackup (h : ch.FailsOver primary c p b since) (hl : ch.Linked) :
    (ch.triggerFailover primary c).channel.OnBackup primary := by
  have hstatus : (ch.triggerFailover primary c).channel.status = ch.status := by rw [h.run hl]; rfl
  obtain ⟨backup, _, hpair⟩ := h.pair hl
  refine ⟨backup, _, _, hpair, ⟨rfl, rfl, rfl⟩, rfl, rfl, fun ha => ?_⟩
  rw [hstatus] at ha
  exact beq_iff_eq.mpr ha

/-- In every reachable channel and whatever the service answers, a failover that goes through leaves
the traffic on the backup exactly when the primary was not failed over before, or the traffic was on
the backup then. -/
theorem failover_moves_iff (h : Reachable σ ch) {primary : Nat} {c : Connection σ}
    (hok : (ch.triggerFailover primary c).result = .ok ()) :
    (ch.triggerFailover primary c).channel.OnBackup primary ↔
      ch.OnBackup primary ∨ ∃ p, ch.outputs[primary]? = some p ∧ p.failoverActive = false := by
  cases hp : ch.outputs[primary]? with
  | none =>
    simp only [triggerFailover, hp] at hok
    cases hok
  | some p =>
    cases hflag : p.failoverActive with
    | false =>
      obtain ⟨b, since, hover⟩ := failsOver_of_ok hok hp hflag
      exact iff_of_true (hover.onBackup h.linked) (.inr ⟨p, rfl, hflag⟩)
    | true =>
      rw [triggerFailover_flagged hp hflag]
      refine (or_iff_left ?_).symm
      rintro ⟨q, hq, hidle⟩
      obtain rfl := Option.some.inj hq
      exact Bool.false_ne_true (hidle.symm.trans hflag)

theorem failover_moves_iff_paired :
    let ch := paired unasked
    (Reachable Simulated ch ∧ (ch.triggerFailover 0 unasked).result = .ok ()) ∧
      ¬ ch.OnBackup 0 ∧ (ch.triggerFailover 0 unasked).channel.OnBackup 0 := by
  intro ch
  have hreachable : Reachable Simulated ch := paired_reachable unasked
  have hok : (ch.triggerFailover 0 unasked).result = .ok () := by decide
  have hidle : ∀ p, ch.outputs[0]? = some p → p.failoverActive = false := by decide
  have hmoved := failover_moves_iff hreachable hok
  obtain ⟨p, hp⟩ : ∃ p, ch.outputs[0]? = some p := ⟨_, rfl⟩
  refine ⟨⟨hreachable, hok⟩, ?_, hmoved.mpr (.inr ⟨p, hp, hidle p hp⟩)⟩
  rintro ⟨_, p', _, hpair, hgave, _⟩
  exact absurd hgave.flagged (by simp [hidle p' hpair.atPrimary])

/-! ### A chain of backups -/

def accepted : Connection Simulated :=
  .fresh { host := "localhost", port := 8080, username := "user", password := "secret" }
    (.startingAt 0) { username := "user", password := "secret" }

/-- A chain of three outputs, of which only the first is enabled. -/
def relayed : Channel :=
  let second := (Operation.setOutputEnabled 1 false).run (chained accepted) accepted
  ((Operation.setOutputEnabled 2 false).run second.channel accepted).channel

/-- The first output of the chain fails over to the second while the channel is on the air. Then a
failover of the second goes through, and the second is still the one that is on the air. -/
theorem failover_of_backup_moves_nothing :
    let started := Operation.start.run relayed accepted
    let first := (Operation.triggerFailover 0).run started.channel started.connection
    let second := first.channel.triggerFailover 1 first.connection
    Reachable Simulated first.channel ∧ second.result = .ok () ∧
      ¬ second.channel.OnBackup 1 ∧
      second.channel.outputs.map (·.enabled) = [false, true, false] ∧
      second.connection.remote.processes.map (·.outputIds) = [["Custom_1"]] := by
  intro started first second
  have hreachable : Reachable Simulated first.channel :=
    .run _ _ (.run _ _ (.run _ _ (.run _ _ (chained_reachable accepted))))
  have hok : second.result = .ok () := by decide
  have henabled : second.channel.outputs.map (·.enabled) = [false, true, false] := by decide
  have houtputs : second.connection.remote.processes.map (·.outputIds) = [["Custom_1"]] := by
    decide
  have hstill : ∀ p, second.channel.outputs[1]? = some p → p.enabled = true := by decide
  refine ⟨hreachable, hok, ?_, henabled, houtputs⟩
  rintro ⟨_, p, _, hpair, hgave, _⟩
  exact Bool.false_ne_true (hgave.disabled.symm.trans (hstill p hpair.atPrimary))

end Channel

end Simulcast
