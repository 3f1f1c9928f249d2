import Simulcast.Proofs.Failover.Agreement

/-!
# Failing over and restoring

A failover puts one moment on the primary and its backup, also on a backup that was failed over to
already or is failed over itself; a restore clears both. So an output beyond the two loses its
partner when that was one of them.
-/

namespace Simulcast

namespace Channel

variable {ch ch' : Channel} {primary : Nat} {p b : Output} {since : Nat}

/-- The outputs that a failover or a restore is about. -/
structure Pair (ch : Channel) (primary backup : Nat) (p b : Output) : Prop where
  atPrimary : ch.outputs[primary]? = some p
  index : ch.backupIndex? primary = some backup
  atBackup : ch.outputs[backup]? = some b

namespace Pair

variable {backup : Nat}

theorem mem (h : ch.Pair primary backup p b) : p ∈ ch.outputs ∧ b ∈ ch.outputs :=
  ⟨List.mem_of_getElem? h.atPrimary, List.mem_of_getElem? h.atBackup⟩

theorem linked (h : ch.Pair primary backup p b) (hl : ch.Linked) :
    backup ≠ primary ∧ p.backup = some b.id ∧ b.primary = some p.id := by
  obtain ⟨hne, b', hb', hlink⟩ := hl.backupIndex?_spec h.atPrimary h.index
  obtain rfl := Option.some.inj (h.atBackup.symm.trans hb')
  exact ⟨hne, hlink, (hl.backup_iff_primary h.mem.1 h.mem.2).mp hlink⟩

theorem ne (h : ch.Pair primary backup p b) (hl : ch.Linked) : p.id ≠ b.id := fun he =>
  (h.linked hl).1 (hl.distinct.index_eq h.atPrimary h.atBackup he).symm

theorem exists_of_index (hp : ch.outputs[primary]? = some p)
    (hindex : ch.backupIndex? primary = some backup) : ∃ b, ch.Pair primary backup p b := by
  obtain ⟨id, _, hposition⟩ := Option.bind_eq_some_iff.mp hindex
  obtain ⟨b, hb, _⟩ := position?_getElem hposition
  exact ⟨b, hp, hindex, hb⟩

theorem changeBoth (h : ch.Pair primary backup p b) (hl : ch.Linked) {f g : Output → Output}
    (hf : ∀ o, (f o).id = o.id) :
    (ch.changeOutput primary f).changeOutput backup g =
      ch.changeOutputs fun o => if o.id = p.id then f o else if o.id = b.id then g o else o := by
  have hid := Output.atId_id p.id hf
  have hne := h.ne hl
  have hb : (ch.changeOutputs (Output.atId p.id f)).outputs[backup]? = some b := by
    rw [getElem?_changeOutputs h.atBackup, Output.atId, if_neg hne.symm]
  rw [hl.distinct.changeOutput_eq h.atPrimary, (hl.distinct.change hid).changeOutput_eq hb,
    changeOutputs_twice]
  refine changeOutputs_congr fun o _ => ?_
  simp only [Function.comp_apply, Output.atId]
  split_ifs <;> simp_all

theorem beyond (h : ch.Pair primary backup p b) (hd : ch.Distinct) {x : Output}
    (hx : x ∈ ch.outputs) (hp : x ≠ p) (hb : x ≠ b) (f g : Output → Output) :
    (if x.id = p.id then f x else if x.id = b.id then g x else x) = x := by
  rw [if_neg fun he => hp (hd.eq_of_id hx h.mem.1 he),
    if_neg fun he => hb (hd.eq_of_id hx h.mem.2 he)]

end Pair

variable {σ : Type} [Service σ]

theorem Pair.triggerFailover_eq {backup : Nat} {c c' : Connection σ}
    (h : ch.Pair primary backup p b) (hidle : p.failoverActive = false)
    (hswap : ch.swapIfActive primary backup c = (.ok (), c')) :
    ch.triggerFailover primary c =
      ⟨.ok (), (ch.changeOutput primary (handedOver c'.now.unix)).changeOutput backup
        (tookOver ch.isActive c'.now.unix), c'⟩ := by
  simp only [triggerFailover, h.atPrimary, h.index, hidle, hswap, Bool.false_eq_true, if_false]

theorem Pair.restorePrimary_eq {backup : Nat} {c c' : Connection σ}
    (h : ch.Pair primary backup p b) (hactive : p.failoverActive)
    (hswap : ch.swapIfActive backup primary c = (.ok (), c')) :
    ch.restorePrimary primary c =
      ⟨.ok (), (ch.changeOutput primary (tookBack ch.isActive)).changeOutput backup handedBack,
        c'⟩ := by
  simp only [restorePrimary, h.atPrimary, h.index, hactive, hswap, if_true]

/-- The failover at a position goes through, at this moment. -/
structure FailsOver (ch : Channel) (primary : Nat) (c : Connection σ) (p b : Output)
    (since : Nat) : Prop where
  idle : p.failoverActive = false
  goes : ∃ backup c', ch.Pair primary backup p b ∧
    ch.swapIfActive primary backup c = (.ok (), c') ∧ c'.now.unix = since

/-- The restore at a position goes through. -/
structure Restores (ch : Channel) (primary : Nat) (c : Connection σ) (p b : Output) : Prop where
  active : p.failoverActive
  goes : ∃ backup c', ch.Pair primary backup p b ∧
    ch.swapIfActive backup primary c = (.ok (), c')

theorem triggerFailover_idle {c : Connection σ}
    (h : ¬ ∃ p b since, ch.FailsOver primary c p b since) :
    (ch.triggerFailover primary c).channel.outputs = ch.outputs := by
  unfold triggerFailover
  cases hp : ch.outputs[primary]? with
  | none => rfl
  | some p =>
    cases hindex : ch.backupIndex? primary with
    | none => rfl
    | some backup =>
      simp only
      split_ifs with hactive
      · rfl
      · cases hswap : ch.swapIfActive primary backup c with
        | mk result c' =>
          cases result with
          | error error => rfl
          | ok =>
            obtain ⟨b, hpair⟩ := Pair.exists_of_index hp hindex
            exact (h ⟨p, b, _, Bool.eq_false_iff.mpr hactive, backup, c', hpair, hswap, rfl⟩).elim

theorem FailsOver.run {c : Connection σ} (h : ch.FailsOver primary c p b since) (hl : ch.Linked) :
    (ch.triggerFailover primary c).channel =
      ch.changeOutputs fun o => if o.id = p.id then handedOver since o
        else if o.id = b.id then tookOver ch.isActive since o else o := by
  obtain ⟨hidle, backup, c', hpair, hswap, rfl⟩ := h
  rw [hpair.triggerFailover_eq hidle hswap]
  exact hpair.changeBoth hl fun _ => rfl

theorem restorePrimary_idle {c : Connection σ} (h : ¬ ∃ p b, ch.Restores primary c p b) :
    (ch.restorePrimary primary c).channel.outputs = ch.outputs := by
  unfold restorePrimary
  cases hp : ch.outputs[primary]? with
  | none => rfl
  | some p =>
    cases hindex : ch.backupIndex? primary with
    | none => rfl
    | some backup =>
      simp only
      split_ifs with hactive
      · cases hswap : ch.swapIfActive backup primary c with
        | mk result c' =>
          cases result with
          | error error => rfl
          | ok =>
            obtain ⟨b, hpair⟩ := Pair.exists_of_index hp hindex
            exact (h ⟨p, b, hactive, backup, c', hpair, hswap⟩).elim
      · rfl

theorem Restores.run {c : Connection σ} (h : ch.Restores primary c p b) (hl : ch.Linked) :
    (ch.restorePrimary primary c).channel =
      ch.changeOutputs fun o => if o.id = p.id then tookBack ch.isActive o
        else if o.id = b.id then handedBack o else o := by
  obtain ⟨hactive, backup, c', hpair, hswap⟩ := h
  rw [hpair.restorePrimary_eq hactive hswap]
  exact hpair.changeBoth hl fun _ => rfl

/-! ### What becomes of the others -/

/-- The failover takes a backup over that somebody else relies on, failed over since another
moment. -/
def Overtakes (ch : Channel) (primary : Nat) (c : Connection σ) : Prop :=
  ∃ p b since, ch.FailsOver primary c p b since ∧
    ∃ x, ch.Relies x (· = b) ∧ x ≠ b ∧ x.failoverStart ≠ some since

/-- The restore clears an output that somebody beyond the two relies on. -/
def Strands (ch : Channel) (primary : Nat) (c : Connection σ) : Prop :=
  ∃ p b, ch.Restores primary c p b ∧ ∃ x, ch.Relies x (fun y => y = p ∨ y = b) ∧ x ≠ p ∧ x ≠ b

section

variable {c : Connection σ}

theorem FailsOver.ne_primary (h : ch.FailsOver primary c p b since) {x : Output}
    (hx : x.failoverActive) : x ≠ p := by
  rintro rfl
  exact absurd hx (by simp [h.idle])

theorem FailsOver.deserts (h : ch.FailsOver primary c p b since) (hl : ch.Linked) {x : Output}
    (hx : ch.Relies x (· = b)) (hxb : x ≠ b) (hstart : x.failoverStart ≠ some since) :
    x ∈ (ch.triggerFailover primary c).channel.outputs ∧
      ∀ y ∈ (ch.triggerFailover primary c).channel.outputs, ¬ x.Joined y := by
  obtain ⟨backup, c', hpair, _⟩ := h.goes
  have hsame := hpair.beyond hl.distinct hx.mem (h.ne_primary hx.active) hxb (handedOver since)
    (tookOver ch.isActive since)
  rw [h.run hl]
  refine ⟨List.mem_map.mpr ⟨x, hx.mem, hsame⟩, fun y' hy' hjoined => ?_⟩
  obtain ⟨y, hy, rfl⟩ := List.mem_map.mp hy'
  split_ifs at hjoined with hyp hyb
  · exact hstart hjoined.start.symm
  · exact hstart hjoined.start.symm
  · exact hyb (congrArg Output.id (hx.only y hy hjoined))

end

theorem FailsOver.agrees_iff {c : Connection σ} (h : ch.FailsOver primary c p b since)
    (hl : ch.Linked) (ha : ch.FailoversAgree) :
    (ch.triggerFailover primary c).channel.FailoversAgree ↔
      ¬ ∃ x, ch.Relies x (· = b) ∧ x ≠ b ∧ x.failoverStart ≠ some since := by
  constructor
  · rintro hafter ⟨x, hx, hxb, hstart⟩
    obtain ⟨hmem, halone⟩ := h.deserts hl hx hxb hstart
    obtain ⟨y, hy, hjoined⟩ := (hafter x hmem).joined hx.active
    exact halone y hy hjoined
  · obtain ⟨backup, c', hpair, _⟩ := h.goes
    obtain ⟨hp, hb⟩ := hpair.mem
    obtain ⟨_, hlink, hback⟩ := hpair.linked hl
    have hne := hpair.ne hl
    rw [h.run hl, agrees_changeOutputs_iff]
    intro hnone x hx
    by_cases hxp : x = p
    · subst hxp
      rw [if_pos rfl]
      refine ⟨fun _ => ⟨b, hb, ?_⟩, nofun⟩
      rw [if_neg hne.symm, if_pos rfl]
      exact ⟨.inl hlink, rfl, rfl⟩
    by_cases hxb : x = b
    · subst hxb
      rw [if_neg hne.symm, if_pos rfl]
      refine ⟨fun _ => ⟨p, hp, ?_⟩, nofun⟩
      rw [if_pos rfl]
      exact ⟨.inr hback, rfl, rfl⟩
    rw [hpair.beyond hl.distinct hx hxp hxb]
    refine ⟨fun hactive => ?_, (ha x hx).unstamped⟩
    by_contra hlost
    refine hnone ⟨x, ⟨hx, hactive, fun y hy hjoined => ?_⟩, hxb, fun hstart => ?_⟩
    · by_contra hyb
      refine hlost ⟨y, hy, ?_⟩
      rw [hpair.beyond hl.distinct hy (h.ne_primary hjoined.active) hyb]
      exact hjoined
    · obtain ⟨y, hy, hjoined⟩ := (ha x hx).joined hactive
      refine hlost ⟨y, hy, ?_⟩
      split_ifs
      · exact ⟨hjoined.linked, rfl, hstart.symm⟩
      · exact ⟨hjoined.linked, rfl, hstart.symm⟩
      · exact hjoined

theorem triggerFailover_agrees_iff (hl : ch.Linked) (ha : ch.FailoversAgree) (primary : Nat)
    (c : Connection σ) :
    (ch.triggerFailover primary c).channel.FailoversAgree ↔ ¬ ch.Overtakes primary c := by
  constructor
  · rintro hafter ⟨p, b, since, h, hx⟩
    exact (h.agrees_iff hl ha).mp hafter hx
  · intro hnot
    by_cases h : ∃ p b since, ch.FailsOver primary c p b since
    · obtain ⟨p, b, since, h⟩ := h
      exact (h.agrees_iff hl ha).mpr fun hx => hnot ⟨p, b, since, h, hx⟩
    · exact ha.of_stances (congrArg (List.map Output.stance) (triggerFailover_idle h))

theorem Restores.agrees_iff {c : Connection σ} (h : ch.Restores primary c p b) (hl : ch.Linked)
    (ha : ch.FailoversAgree) :
    (ch.restorePrimary primary c).channel.FailoversAgree ↔
      ¬ ∃ x, ch.Relies x (fun y => y = p ∨ y = b) ∧ x ≠ p ∧ x ≠ b := by
  obtain ⟨backup, c', hpair, _⟩ := h.goes
  obtain ⟨hp, hb⟩ := hpair.mem
  have hne := hpair.ne hl
  rw [h.run hl, agrees_changeOutputs_iff]
  constructor
  · rintro hafter ⟨x, hx, hxp, hxb⟩
    have hafterx := (hafter x hx.mem).1
    rw [hpair.beyond hl.distinct hx.mem hxp hxb] at hafterx
    obtain ⟨y, hy, hjoined⟩ := hafterx hx.active
    split_ifs at hjoined with hyp hyb
    · exact absurd hjoined.active nofun
    · exact absurd hjoined.active nofun
    · rcases hx.only y hy hjoined with rfl | rfl
      · exact hyp rfl
      · exact hyb rfl
  · intro hnone x hx
    by_cases hxp : x = p
    · subst hxp
      rw [if_pos rfl]
      exact ⟨nofun, fun _ => rfl⟩
    by_cases hxb : x = b
    · subst hxb
      rw [if_neg hne.symm, if_pos rfl]
      exact ⟨nofun, fun _ => rfl⟩
    rw [hpair.beyond hl.distinct hx hxp hxb]
    refine ⟨fun hactive => ?_, (ha x hx).unstamped⟩
    by_contra hlost
    refine hnone ⟨x, ⟨hx, hactive, fun y hy hjoined => ?_⟩, hxp, hxb⟩
    by_contra hbeyond
    obtain ⟨hyp, hyb⟩ := not_or.mp hbeyond
    refine hlost ⟨y, hy, ?_⟩
    rw [hpair.beyond hl.distinct hy hyp hyb]
    exact hjoined

theorem restorePrimary_agrees_iff (hl : ch.Linked) (ha : ch.FailoversAgree) (primary : Nat)
    (c : Connection σ) :
    (ch.restorePrimary primary c).channel.FailoversAgree ↔ ¬ ch.Strands primary c := by
  constructor
  · rintro hafter ⟨p, b, h, hx⟩
    exact (h.agrees_iff hl ha).mp hafter hx
  · intro hnot
    by_cases h : ∃ p b, ch.Restores primary c p b
    · obtain ⟨p, b, h⟩ := h
      exact (h.agrees_iff hl ha).mpr fun hx => hnot ⟨p, b, h, hx⟩
    · exact ha.of_stances (congrArg (List.map Output.stance) (restorePrimary_idle h))

/-! ### The moment -/

theorem Stamped.switched (h : ch.Stamped) {f g : Output → Output}
    (hf : ∀ o, (f o).failoverActive → (f o).failoverStart ≠ none)
    (hg : ∀ o, (g o).failoverActive → (g o).failoverStart ≠ none) (p b : OutputId) :
    (ch.changeOutputs fun o => if o.id = p then f o else if o.id = b then g o else o).Stamped := by
  simp only [Stamped, changeOutputs, List.forall_mem_map]
  intro o ho
  split_ifs
  · exact hf o
  · exact hg o
  · exact h o ho

theorem Stamped.triggerFailover (h : ch.Stamped) (hl : ch.Linked) (primary : Nat)
    (c : Connection σ) : (ch.triggerFailover primary c).channel.Stamped := by
  by_cases hover : ∃ p b since, ch.FailsOver primary c p b since
  · obtain ⟨p, b, since, hover⟩ := hover
    rw [hover.run hl]
    exact h.switched (fun _ _ => Option.some_ne_none since) (fun _ _ => Option.some_ne_none since)
      p.id b.id
  · exact h.of_stances (congrArg (List.map Output.stance) (triggerFailover_idle hover))

theorem Stamped.restorePrimary (h : ch.Stamped) (hl : ch.Linked) (primary : Nat)
    (c : Connection σ) : (ch.restorePrimary primary c).channel.Stamped := by
  by_cases hback : ∃ p b, ch.Restores primary c p b
  · obtain ⟨p, b, hback⟩ := hback
    rw [hback.run hl]
    exact h.switched (fun _ ho => absurd ho Bool.false_ne_true)
      (fun _ ho => absurd ho Bool.false_ne_true) p.id b.id
  · exact h.of_stances (congrArg (List.map Output.stance) (restorePrimary_idle hback))

end Channel

end Simulcast
