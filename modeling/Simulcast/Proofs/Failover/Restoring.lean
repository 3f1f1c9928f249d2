import Simulcast.Proofs.Failover.Moving
import Simulcast.Proofs.Failover.Swapping
import Simulcast.Proofs.Remote.Authenticating

/-!
# A restore undoes a failover

A failover writes over what it finds at the primary and its backup, and a restore over that. So
together they come back to the same when the primary was on the air and the backup was not, and
neither had part in a failover. On the service two swaps in opposite directions leave the same
outputs on the process, of which that of the primary is new.
-/

namespace Simulcast

namespace Output

/-- The output has no part in a failover. -/
structure Uninvolved (o : Output) : Prop where
  idle : o.failoverActive = false
  unstamped : o.failoverStart = none

def standDown (o : Output) : Output := { o with connected := false, failures := 0 }

def atBoth (p b : OutputId) (f g : Output → Output) (o : Output) : Output :=
  if o.id = p then f o else if o.id = b then g o else o

theorem atBoth_atBoth {f g : Output → Output} (hf : ∀ o, (f o).id = o.id)
    (hg : ∀ o, (g o).id = o.id) (p b : OutputId) (f' g' : Output → Output) (o : Output) :
    atBoth p b f' g' (atBoth p b f g o) = atBoth p b (f' ∘ f) (g' ∘ g) o := by
  unfold atBoth
  by_cases hp : o.id = p
  · simp only [hp, if_true, hf, Function.comp_apply]
  · by_cases hb : o.id = b
    · simp only [if_neg hp, if_pos hb, hg, Function.comp_apply]
    · simp only [if_neg hp, if_neg hb]

theorem tookBack_handedOver {o : Output} (henabled : o.enabled) (ho : o.Uninvolved) (since : Nat) :
    Channel.tookBack true (Channel.handedOver since o) = o.markConnected := by
  obtain ⟨hidle, hunstamped⟩ := ho
  cases o
  simp_all [Channel.tookBack, Channel.handedOver, markConnected]

theorem handedBack_tookOver {o : Output} (hdisabled : o.enabled = false) (ho : o.Uninvolved)
    (since : Nat) : Channel.handedBack (Channel.tookOver true since o) = o.standDown := by
  obtain ⟨hidle, hunstamped⟩ := ho
  cases o
  simp_all [Channel.handedBack, Channel.tookOver, standDown]

end Output

namespace RunningProcess

variable {q : RunningProcess}

def exchange (q : RunningProcess) (added : ProcessOutput) (removed : String) : RunningProcess :=
  (q.withOutput added).withoutOutput removed

theorem mem_outputIds_exchange (added : ProcessOutput) (removed x : String) :
    x ∈ (q.exchange added removed).outputIds ↔ x ≠ removed ∧ (x = added.id ∨ x ∈ q.outputIds) := by
  rw [exchange, mem_outputIds_withoutOutput, mem_outputIds_withOutput]

/-- Two exchanges in opposite directions leave the same outputs, one of them new. -/
theorem exchange_exchange (first second : ProcessOutput) (hthere : second.id ∈ q.outputIds)
    (hnew : first.id ∉ q.outputIds) :
    let back := (q.exchange first second.id).exchange second first.id
    (∀ x, x ∈ back.outputIds ↔ x ∈ q.outputIds) ∧
      back.outputs.filter (·.id == second.id) = [second] := by
  intro back
  have hne : second.id ≠ first.id := fun he => hnew (he ▸ hthere)
  refine ⟨fun x => ?_, ?_⟩
  · rw [mem_outputIds_exchange, mem_outputIds_exchange]
    constructor
    · rintro ⟨hx, rfl | ⟨_, rfl | hmem⟩⟩
      · exact hthere
      · exact absurd rfl hx
      · exact hmem
    · intro hmem
      refine ⟨fun he => hnew (he ▸ hmem), ?_⟩
      by_cases hx : x = second.id
      · exact .inl hx
      · exact .inr ⟨hx, .inr hmem⟩
  · have hgone : second.id ∉ (q.exchange first second.id).outputIds := fun hmem =>
      ((mem_outputIds_exchange _ _ _).mp hmem).1 rfl
    exact (filter_withoutOutput hne).trans (filter_withOutput hgone)

end RunningProcess

namespace Channel

variable {ch : Channel} {primary backup : Nat} {p b : Output} {since : Nat}

/-! ### The outputs of the channel -/

/-- The outputs after a failover and a restore, if the primary was on the air and its backup not. -/
def settled (p b : Output) : Output → Output :=
  Output.atBoth p.id b.id Output.markConnected Output.standDown

theorem settled_stance (p b o : Output) : (settled p b o).stance = o.stance := by
  unfold settled Output.atBoth
  split_ifs <;> rfl

theorem settled_face (p b o : Output) : (settled p b o).face = o.face := by
  unfold settled Output.atBoth
  split_ifs <;> rfl

theorem FailsOver.restored {σ : Type} [Service σ] {c d : Connection σ} (ha : ch.status = .active)
    (hl : ch.Linked) (h : ch.FailsOver primary c p b since)
    (hback : (ch.triggerFailover primary c).channel.Restores primary d (handedOver since p)
      (tookOver true since b))
    (hp : p.enabled ∧ p.Uninvolved) (hb : b.enabled = false ∧ b.Uninvolved) :
    ((ch.triggerFailover primary c).channel.restorePrimary primary d).channel =
      ch.changeOutputs (settled p b) := by
  have hactive : ch.isActive = true := beq_iff_eq.mpr ha
  have hactive' (f : Output → Output) : (ch.changeOutputs f).isActive = true := hactive
  have hover : (ch.triggerFailover primary c).channel =
      ch.changeOutputs (Output.atBoth p.id b.id (handedOver since) (tookOver true since)) := by
    rw [h.run hl, hactive]
    rfl
  have hrun := hback.run (hl.of_wiring (ch.triggerFailover_wiring primary c))
  rw [hover, hactive'] at hrun
  rw [hover, hrun, changeOutputs_twice]
  refine changeOutputs_congr fun o ho => ?_
  obtain ⟨_, hpair, _⟩ := h.pair hl
  have htwice := Output.atBoth_atBoth (f := handedOver since) (g := tookOver true since)
    (fun _ => rfl) (fun _ => rfl) p.id b.id (tookBack true) handedBack o
  refine htwice.trans ?_
  unfold settled Output.atBoth
  split_ifs with hop hob
  · obtain rfl := hl.distinct.eq_of_id ho hpair.mem.1 hop
    exact Output.tookBack_handedOver hp.1 hp.2 since
  · obtain rfl := hl.distinct.eq_of_id ho hpair.mem.2 hob
    exact Output.handedBack_tookOver hb.1 hb.2 since
  · rfl

/-! ### The outputs of the process -/

variable {q : RunningProcess} {c : Connection Simulated}

theorem Owns.swapIfActive (h : ch.Owns q c.remote) (hauth : Authenticates c)
    (ha : ch.status = .active) {outgoing incoming : Nat} {o i : Output}
    (ho : ch.outputs[outgoing]? = some o) (hi : ch.outputs[incoming]? = some i)
    (hthere : remoteId o.platform outgoing ∈ q.outputIds)
    (hnew : remoteId i.platform incoming ∉ q.outputIds) :
    ∃ c', ch.swapIfActive outgoing incoming c = (.ok (), c') ∧ Authenticates c' ∧
      ch.Became [remoteId i.platform incoming, remoteId o.platform outgoing] c.remote
        (q.exchange (ch.pushed incoming i) (remoteId o.platform outgoing)) c'.remote := by
  obtain ⟨c₁, hfind, hauth₁, halike⟩ := h.findProcess hauth
  have hadded : (ch.pushed incoming i).id ∈
    [remoteId i.platform incoming, remoteId o.platform outgoing] := List.mem_cons_self
  obtain ⟨c₂, hadd, hauth₂, hbecame₂⟩ := (h.alike halike).addOutput_granted hauth₁ hadded hnew
  have hremains := (RunningProcess.mem_outputIds_withOutput (ch.pushed incoming i) _).mpr
    (.inr hthere)
  have hremoved : remoteId o.platform outgoing ∈
    [remoteId i.platform incoming, remoteId o.platform outgoing] := List.mem_pair.mpr (.inr rfl)
  obtain ⟨c₃, hremove, hauth₃, hbecame₃⟩ :=
    hbecame₂.owns.removeOutput_granted hauth₂ hremoved hremains
  refine ⟨c₃, ?_, hauth₃, (h.became halike).trans (hbecame₂.trans hbecame₃)⟩
  have hinfo : (q.withOutput (ch.pushed incoming i)).info = q.info := rfl
  rw [hinfo] at hremove
  simp only [Channel.swapIfActive, ha, if_true, swapRemote, hfind, processOutput?, remoteOutputId?,
    ho, hi, Option.map_some, hadd, hremove]

theorem failover_granted (ha : ch.status = .active) (hl : ch.Linked) (h : ch.Owns q c.remote)
    (hauth : Authenticates c) (hpair : ch.Pair primary backup p b)
    (hidle : p.failoverActive = false) (hthere : remoteId p.platform primary ∈ q.outputIds)
    (hnew : remoteId b.platform backup ∉ q.outputIds) :
    let failover := ch.triggerFailover primary c
    failover.result = .ok () ∧
      (∃ since, ch.FailsOver primary c p b since ∧
        failover.channel.Pair primary backup (handedOver since p) (tookOver true since b)) ∧
      Authenticates failover.connection ∧
      ch.Owns (q.exchange (ch.pushed backup b) (remoteId p.platform primary))
        failover.connection.remote := by
  intro failover
  obtain ⟨c', hswap, hauth', hbecame⟩ :=
    h.swapIfActive hauth ha hpair.atPrimary hpair.atBackup hthere hnew
  have hover : failover = _ := hpair.triggerFailover_eq hidle hswap
  have hfails : ch.FailsOver primary c p b c'.now.unix :=
    ⟨hidle, backup, c', hpair, hswap, rfl⟩
  have hactive : ch.isActive = true := beq_iff_eq.mpr ha
  obtain ⟨backup', hpair', hafter⟩ := hfails.pair hl
  obtain rfl : backup' = backup := Option.some.inj (hpair'.index.symm.trans hpair.index)
  rw [hactive] at hafter
  refine ⟨congrArg Outcome.result hover, ⟨_, hfails, hafter⟩, ?_, ?_⟩ <;> rw [hover]
  · exact hauth'
  · exact hbecame.owns

theorem restore_granted (ha : ch.status = .active) (h : ch.Owns q c.remote)
    (hauth : Authenticates c) (hpair : ch.Pair primary backup p b) (hactive : p.failoverActive)
    (hthere : remoteId b.platform backup ∈ q.outputIds)
    (hnew : remoteId p.platform primary ∉ q.outputIds) :
    let back := ch.restorePrimary primary c
    back.result = .ok () ∧ ch.Restores primary c p b ∧
      ch.Owns (q.exchange (ch.pushed primary p) (remoteId b.platform backup))
        back.connection.remote := by
  intro back
  obtain ⟨c', hswap, _, hbecame⟩ :=
    h.swapIfActive hauth ha hpair.atBackup hpair.atPrimary hthere hnew
  have hback : back = _ := hpair.restorePrimary_eq hactive hswap
  refine ⟨congrArg Outcome.result hback, ⟨hactive, backup, c', hpair, hswap⟩, ?_⟩
  rw [hback]
  exact hbecame.owns

/-- A failover and a restore right after it, over a connection that is able to authenticate, of a
primary that is on the air with a backup that is not: both go through. Then all outputs have the
links, the failover and the place on the air that they had, and the process has the same outputs, of
which that of the primary is as the channel would push it now. -/
theorem restore_undoes_failover {ch : Channel} (ha : ch.status = .active) (hl : ch.Linked)
    {c : Connection Simulated} (hids : (c.remote.processes.map (·.info.id)).Nodup)
    (hreferences : (c.remote.processes.map (·.info.reference)).Nodup) (hauth : Authenticates c)
    {primary backup : Nat} {p b : Output} (hpair : ch.Pair primary backup p b)
    (hon : p.enabled ∧ ch.OnProcess c.remote (remoteId p.platform primary))
    (hoff : b.enabled = false ∧ ¬ ch.OnProcess c.remote (remoteId b.platform backup))
    (hp : p.Uninvolved) (hb : b.Uninvolved) :
    let failover := ch.triggerFailover primary c
    let back := failover.channel.restorePrimary primary failover.connection
    (failover.result = .ok () ∧ back.result = .ok ()) ∧
      back.channel.stances = ch.stances ∧ back.channel.faces = ch.faces ∧
      (∀ x, back.channel.OnProcess back.connection.remote x ↔ ch.OnProcess c.remote x) ∧
      back.channel.Pushes primary back.connection.remote := by
  intro failover back
  obtain ⟨q, hq, hrefers, hthere⟩ := hon.2
  have howns : ch.Owns q c.remote := ⟨hrefers, hq, hids, hreferences⟩
  have hnew : remoteId b.platform backup ∉ q.outputIds := fun hmem =>
    hoff.2 ((howns.onProcess_iff _).mpr hmem)
  obtain ⟨hover, ⟨since, hfails, hpair₁⟩, hauth₁, howns₁⟩ :=
    failover_granted ha hl howns hauth hpair hp.idle hthere hnew
  have hrun : failover.channel = _ := hfails.run hl
  have hstatus : failover.channel.status = .active := (congrArg Channel.status hrun).trans ha
  have hreference : failover.channel.processReference = ch.processReference :=
    (congrArg Channel.processReference hrun :)
  have hpushed : failover.channel.pushed primary (handedOver since p) = ch.pushed primary p := by
    rw [hrun]
    rfl
  obtain ⟨hback, hrestores, howns₂⟩ :=
    restore_granted hstatus (howns₁.of_reference hreference) hauth₁ hpair₁ rfl
      ((RunningProcess.mem_outputIds_exchange _ _ _).mpr ⟨fun he => hnew (he ▸ hthere), .inl rfl⟩)
      fun hmem => ((RunningProcess.mem_outputIds_exchange _ _ _).mp hmem).1 rfl
  have hchannel : back.channel = ch.changeOutputs (settled p b) :=
    hfails.restored ha hl hrestores ⟨hon.1, hp⟩ ⟨hoff.1, hb⟩
  obtain ⟨hsame, honce⟩ :=
    RunningProcess.exchange_exchange (ch.pushed backup b) (ch.pushed primary p) hthere hnew
  rw [hpushed] at howns₂
  have hkept : back.channel.processReference = failover.channel.processReference := by
    rw [hchannel, hreference]
    rfl
  have howned := howns₂.of_reference hkept
  refine ⟨⟨hover, hback⟩, ?_, ?_, fun x => ?_, _, howned.mem, howned.refers,
    ch.pushed primary p, ?_, honce⟩
  · rw [hchannel]
    exact List.map_map.trans (congrArg (List.map · ch.outputs) (funext (settled_stance p b)))
  · rw [hchannel]
    exact List.map_map.trans (congrArg (List.map · ch.outputs) (funext (settled_face p b)))
  · rw [howned.onProcess_iff, howns.onProcess_iff]
    exact hsame x
  · rw [hchannel, processOutput?, getElem?_changeOutputs hpair.atPrimary, settled, Output.atBoth,
      if_pos rfl]
    rfl

def backedOnAir : Channel := pairedOnAir.changeOutput 1 ({ · with enabled := false })

theorem restore_undoes_failover_backed :
    let ch := backedOnAir
    let failover := ch.triggerFailover 0 airing
    let back := failover.channel.restorePrimary 0 failover.connection
    (ch.status = .active ∧ ch.Linked ∧ (airing.remote.processes.map (·.info.id)).Nodup ∧
      (airing.remote.processes.map (·.info.reference)).Nodup ∧ Authenticates airing) ∧
    ∃ p b, ch.Pair 0 1 p b ∧ (p.enabled ∧ ch.OnProcess airing.remote (remoteId p.platform 0)) ∧
      (b.enabled = false ∧ ¬ ch.OnProcess airing.remote (remoteId b.platform 1)) ∧
      p.Uninvolved ∧ b.Uninvolved ∧ failover.result = .ok () ∧ back.result = .ok () ∧
      back.channel.Pushes 0 back.connection.remote := by
  intro ch failover back
  have hlinked : ch.Linked := (paired_reachable airing).linked.of_wiring rfl
  have hids : (airing.remote.processes.map (·.info.id)).Nodup := by decide
  have hreferences : (airing.remote.processes.map (·.info.reference)).Nodup := by decide
  have hauth : Authenticates airing := ⟨fun _ => rfl, "access-1", by decide, by decide⟩
  obtain ⟨p, hp⟩ : ∃ p, ch.outputs[0]? = some p := ⟨_, rfl⟩
  obtain ⟨b, hb⟩ : ∃ b, ch.outputs[1]? = some b := ⟨_, rfl⟩
  have hpair : ch.Pair 0 1 p b := ⟨hp, by decide, hb⟩
  have hfirst : ∀ p, ch.outputs[0]? = some p → p.enabled = true ∧ p.failoverActive = false ∧
      p.failoverStart = none ∧ remoteId p.platform 0 = "Custom_0" := by decide
  have hsecond : ∀ b, ch.outputs[1]? = some b → b.enabled = false ∧ b.failoverActive = false ∧
      b.failoverStart = none ∧ remoteId b.platform 1 = "Custom_1" := by decide
  obtain ⟨hpenabled, hpidle, hpstart, hpid⟩ := hfirst p hp
  obtain ⟨hbdisabled, hbidle, hbstart, hbid⟩ := hsecond b hb
  have hon : ch.OnProcess airing.remote (remoteId p.platform 0) := by
    rw [hpid]
    unfold OnProcess
    decide
  have hoff : ¬ ch.OnProcess airing.remote (remoteId b.platform 1) := by
    rw [hbid]
    unfold OnProcess
    decide
  obtain ⟨⟨hover, hback⟩, _, _, _, hpushes⟩ :=
    restore_undoes_failover rfl hlinked hids hreferences hauth hpair ⟨hpenabled, hon⟩
      ⟨hbdisabled, hoff⟩ ⟨hpidle, hpstart⟩ ⟨hbidle, hbstart⟩
  exact ⟨⟨rfl, hlinked, hids, hreferences, hauth⟩, p, b, hpair, ⟨hpenabled, hon⟩,
    ⟨hbdisabled, hoff⟩, ⟨hpidle, hpstart⟩, ⟨hbidle, hbstart⟩, hover, hback, hpushes⟩

end Channel

end Simulcast
