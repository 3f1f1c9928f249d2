import Simulcast.Proofs.Failover.Switching

/-!
# Failing over one after the other

A check fails over every primary that is missing and is no backup itself. What one of these
failovers takes from an output the later ones do not give back: they touch primaries that are no
backups, and their backups, and the output that lost its partner is two links away from such a
primary.
-/

namespace Simulcast

namespace Channel

variable {ch : Channel} {p b : Output} {since : Nat} {σ : Type} [Service σ]

/-- An output that is failed over while nobody linked to it is, since the same moment, beyond two
others in a row that are failed over. -/
structure Stranded (ch : Channel) (x e : Output) : Prop where
  mem : x ∈ ch.outputs
  active : x.failoverActive
  alone : ∀ y ∈ ch.outputs, ¬ x.Joined y
  primary : e ∈ ch.outputs ∧ x.primary = some e.id ∧ e.failoverActive
  beyond : ∃ f ∈ ch.outputs, e.primary = some f.id ∧ f.failoverActive

def Roots (ch : Channel) (indices : List Nat) : Prop :=
  ∀ index ∈ indices, ∀ o, ch.outputs[index]? = some o → o.primary = none

theorem Roots.of_wiring {ch' : Channel} {indices : List Nat} (h : ch.Roots indices)
    (hw : ch'.wiring = ch.wiring) : ch'.Roots indices := by
  intro index hindex o' ho'
  have hends : (ch'.outputs.map Output.ends)[index]? = (ch.outputs.map Output.ends)[index]? :=
    congrArg (fun w => w.ends[index]?) hw
  rw [List.getElem?_map, List.getElem?_map, ho', Option.map_some, eq_comm,
    Option.map_eq_some_iff] at hends
  obtain ⟨o, ho, he⟩ := hends
  have hprimary : o.primary = o'.primary := congrArg (fun e => e.2.2) he
  exact hprimary ▸ h index hindex o ho

theorem Stranded.disagrees {x e : Output} (h : ch.Stranded x e) : ¬ ch.FailoversAgree := by
  intro ha
  obtain ⟨y, hy, hjoined⟩ := (ha x h.mem).joined h.active
  exact h.alone y hy hjoined

theorem triggerFailover_wiring (ch : Channel) (primary : Nat) (c : Connection σ) :
    (ch.triggerFailover primary c).channel.wiring = ch.wiring :=
  wiring_eq (triggerFailover_tended (tending_true _) ch.refersTo_getD primary c).1

theorem FailsOver.strands {primary : Nat} {c : Connection σ}
    (h : ch.FailsOver primary c p b since) (hl : ch.Linked) (ha : ch.FailoversAgree) {x : Output}
    (hx : ch.Relies x (· = b)) (hxb : x ≠ b) (hstart : x.failoverStart ≠ some since) :
    ∃ e, (ch.triggerFailover primary c).channel.Stranded x e := by
  obtain ⟨hmem, halone⟩ := h.deserts hl hx hxb hstart
  obtain ⟨backup, c', hpair, _⟩ := h.goes
  obtain ⟨hp, hb⟩ := hpair.mem
  obtain ⟨_, _, hback⟩ := hpair.linked hl
  have hne := hpair.ne hl
  have hlink : x.primary = some b.id := by
    obtain ⟨y, hy, hjoined⟩ := (ha x hx.mem).joined hx.active
    obtain rfl := hx.only y hy hjoined
    refine hjoined.linked.resolve_left fun hbackup => h.ne_primary hx.active ?_
    exact hl.distinct.eq_of_link hx.mem hp ((hl.backup_iff_primary hx.mem hy).mp hbackup) hback
  refine ⟨tookOver ch.isActive since b, hmem, hx.active, halone, ?_, handedOver since p, ?_⟩
  · rw [h.run hl]
    refine ⟨List.mem_map.mpr ⟨b, hb, ?_⟩, hlink, rfl⟩
    rw [if_neg hne.symm, if_pos rfl]
  · rw [h.run hl]
    refine ⟨List.mem_map.mpr ⟨p, hp, ?_⟩, hback, rfl⟩
    rw [if_pos rfl]

/-- A failover of a primary that is no backup is nowhere near a stranded output: the primary of the
backup was not failed over, unlike those of the two in the chain. -/
theorem Stranded.apart {x e : Output} (h : ch.Stranded x e) (hl : ch.Linked)
    {primary backup : Nat} (hpair : ch.Pair primary backup p b) (hidle : p.failoverActive = false)
    (hroot : p.primary = none) :
    (x ≠ p ∧ ¬ x.LinkedTo p) ∧ (x ≠ b ∧ ¬ x.LinkedTo b) ∧ e ≠ p ∧ e ≠ b := by
  obtain ⟨hp, hb⟩ := hpair.mem
  obtain ⟨_, _, hback⟩ := hpair.linked hl
  obtain ⟨he, hxe, heactive⟩ := h.primary
  obtain ⟨f, hf, hef, hfactive⟩ := h.beyond
  have notPrimary {y : Output} (hy : y.failoverActive) : y ≠ p := by
    rintro rfl
    simp [hidle] at hy
  have hep : e ≠ p := notPrimary heactive
  have hxb : x ≠ b := by
    rintro rfl
    exact hep (hl.distinct.eq_of_link he hp hxe hback)
  have heb : e ≠ b := by
    rintro rfl
    exact notPrimary hfactive (hl.distinct.eq_of_link hf hp hef hback)
  refine ⟨⟨notPrimary h.active, ?_⟩, ⟨hxb, ?_⟩, hep, heb⟩
  · rintro (hbackup | hprimary)
    · cases hroot.symm.trans ((hl.backup_iff_primary h.mem hp).mp hbackup)
    · exact hep (hl.distinct.eq_of_link he hp hxe hprimary)
  · rintro (hbackup | hprimary)
    · have hback' := (hl.backup_iff_primary h.mem hb).mp hbackup
      exact notPrimary h.active (hl.distinct.eq_of_link h.mem hp hback' hback)
    · exact heb (hl.distinct.eq_of_link he hb hxe hprimary)

theorem Stranded.failover {x e : Output} (h : ch.Stranded x e) (hl : ch.Linked) {primary : Nat}
    (hroot : ∀ o, ch.outputs[primary]? = some o → o.primary = none) (c : Connection σ) :
    (ch.triggerFailover primary c).channel.Stranded x e := by
  by_cases hover : ∃ p b since, ch.FailsOver primary c p b since
  · obtain ⟨p, b, since, hover⟩ := hover
    obtain ⟨backup, c', hpair, _⟩ := hover.goes
    obtain ⟨⟨hxp, notPrimary⟩, ⟨hxb, notBackup⟩, hep, heb⟩ :=
      h.apart hl hpair hover.idle (hroot p hpair.atPrimary)
    obtain ⟨he, hxe, heactive⟩ := h.primary
    obtain ⟨f, hf, hef, hfactive⟩ := h.beyond
    have beyond {y : Output} (hy : y ∈ ch.outputs) (hyp : y ≠ p) (hyb : y ≠ b) :=
      hpair.beyond hl.distinct hy hyp hyb (handedOver since) (tookOver ch.isActive since)
    have hbp := (hpair.ne hl).symm
    rw [hover.run hl]
    refine ⟨List.mem_map.mpr ⟨x, h.mem, beyond h.mem hxp hxb⟩, h.active, fun y' hy' hjoined => ?_,
      ⟨List.mem_map.mpr ⟨e, he, beyond he hep heb⟩, hxe, heactive⟩, ?_⟩
    · obtain ⟨y, hy, rfl⟩ := List.mem_map.mp hy'
      split_ifs at hjoined with hyp hyb
      · obtain rfl := hl.distinct.eq_of_id hy hpair.mem.1 hyp
        exact notPrimary hjoined.linked
      · obtain rfl := hl.distinct.eq_of_id hy hpair.mem.2 hyb
        exact notBackup hjoined.linked
      · exact h.alone y hy hjoined
    · by_cases hfb : f = b
      · subst hfb
        refine ⟨tookOver ch.isActive since f, List.mem_map.mpr ⟨f, hf, ?_⟩, hef, rfl⟩
        rw [if_neg hbp, if_pos rfl]
      · have hfp := hover.ne_primary hfactive
        exact ⟨f, List.mem_map.mpr ⟨f, hf, beyond hf hfp hfb⟩, hef, hfactive⟩
  · have hsame := triggerFailover_idle hover
    exact ⟨hsame ▸ h.mem, h.active, hsame ▸ h.alone, hsame ▸ h.primary, hsame ▸ h.beyond⟩

/-! ### All of a check -/

/-- Among the failovers at these positions, one after the other, one overtakes. -/
def OvertakesAmong : List Nat → Channel → Connection σ → Prop
  | [], _, _ => False
  | index :: rest, ch, c =>
    ch.Overtakes index c ∨
      OvertakesAmong rest (ch.triggerFailover index c).channel
        (ch.triggerFailover index c).connection

theorem Stranded.failoverEach {x e : Output} (h : ch.Stranded x e) (hl : ch.Linked)
    {indices : List Nat} (hroots : ch.Roots indices) (c : Connection σ) :
    (Channel.failoverEach indices ch c).2.1.Stranded x e := by
  induction indices generalizing ch c with
  | nil => exact h
  | cons index rest ih =>
    have hw := ch.triggerFailover_wiring index c
    have hfirst := h.failover hl (hroots index List.mem_cons_self) c
    have hrest : ch.Roots rest := fun i hi => hroots i (List.mem_cons_of_mem index hi)
    exact ih hfirst (hl.of_wiring hw) (hrest.of_wiring hw) (ch.triggerFailover index c).connection

theorem failoverEach_agrees_iff {indices : List Nat} (hroots : ch.Roots indices) (hl : ch.Linked)
    (ha : ch.FailoversAgree) (c : Connection σ) :
    (failoverEach indices ch c).2.1.FailoversAgree ↔ ¬ OvertakesAmong indices ch c := by
  induction indices generalizing ch c with
  | nil => exact iff_of_true ha not_false
  | cons index rest ih =>
    have hw := ch.triggerFailover_wiring index c
    have hrest : ch.Roots rest := fun i hi => hroots i (List.mem_cons_of_mem index hi)
    have hnext := hrest.of_wiring hw
    have hlinked := hl.of_wiring hw
    by_cases hover : ch.Overtakes index c
    · refine iff_of_false ?_ fun hnot => hnot (.inl hover)
      obtain ⟨p, b, since, hover, x, hx, hxb, hstart⟩ := hover
      obtain ⟨e, hstranded⟩ := hover.strands hl ha hx hxb hstart
      exact (hstranded.failoverEach hlinked hnext (ch.triggerFailover index c).connection).disagrees
    · have hagrees := (triggerFailover_agrees_iff hl ha index c).mpr hover
      refine (ih hnext hlinked hagrees (ch.triggerFailover index c).connection).trans ?_
      rw [OvertakesAmong, or_iff_right hover]

theorem roots_failoverCandidates (ch : Channel) : ch.Roots ch.failoverCandidates := by
  intro index hindex o ho
  have hneeds := (List.mem_filter.mp hindex).2
  rw [ho, Option.map_some, Option.getD_some] at hneeds
  simp only [needsFailover, Output.isBackup, Bool.and_eq_true, Bool.not_eq_true',
    Option.isSome_eq_false_iff, Option.isNone_iff_eq_none] at hneeds
  exact hneeds.1.1.1.2

theorem checkFailover_agrees_iff (hl : ch.Linked) (ha : ch.FailoversAgree) (c : Connection σ) :
    (ch.checkFailover c).2.1.FailoversAgree ↔
      ¬ (ch.status = .active ∧ OvertakesAmong ch.failoverCandidates ch c) := by
  unfold checkFailover
  split_ifs with hactive
  · rw [failoverEach_agrees_iff ch.roots_failoverCandidates hl ha, and_iff_right hactive]
  · exact iff_of_true ha fun h => hactive h.1

theorem Stamped.failoverEach (h : ch.Stamped) (hl : ch.Linked) (indices : List Nat)
    (c : Connection σ) : (Channel.failoverEach indices ch c).2.1.Stamped := by
  induction indices generalizing ch c with
  | nil => exact h
  | cons index rest ih =>
    exact ih (h.triggerFailover hl index c) (hl.of_wiring (ch.triggerFailover_wiring index c))
      (ch.triggerFailover index c).connection

theorem Stamped.checkFailover (h : ch.Stamped) (hl : ch.Linked) (c : Connection σ) :
    (ch.checkFailover c).2.1.Stamped := by
  unfold Channel.checkFailover
  split_ifs
  · exact h.failoverEach hl ch.failoverCandidates c
  · exact h

end Channel

end Simulcast
