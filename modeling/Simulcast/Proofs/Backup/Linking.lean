import Simulcast.Proofs.Backup.Changes

/-!
# Unlinking and linking

Unlinking clears one link at both of its ends. Linking replaces the links out of the primary and
into the backup by the new one; it is refused when the chain of backups from the new backup meets
the primary, so that it closes no cycle.
-/

namespace Simulcast

/-- The output once the link from `p` to `b` is gone. -/
def Output.parted (p b : OutputId) (o : Output) : Output :=
  { o with
    backup := if o.id = p then none else o.backup
    primary := if o.id = b then none else o.primary
    failoverActive := if o.id = p ∨ o.id = b then false else o.failoverActive }

@[simp] theorem Output.parted_id (p b : OutputId) (o : Output) : (o.parted p b).id = o.id := rfl

/-- The output once `b` is the backup of `p`. -/
def Output.linked (p b : OutputId) (o : Output) : Output :=
  { o with
    backup := if o.id = p then some b else if o.backup = some b then none else o.backup
    primary := if o.id = b then some p else if o.primary = some p then none else o.primary }

@[simp] theorem Output.linked_id (p b : OutputId) (o : Output) : (o.linked p b).id = o.id := rfl

namespace Channel

open Relation

theorem removeOutputBackup_eq {ch ch' : Channel} (h : ch.Distinct) {primary : Nat}
    (hr : ch.removeOutputBackup primary = .ok ch') :
    ∃ p b, ch.HasBackup p b ∧ ch' = ch.changeOutputs (Output.parted p b) := by
  unfold removeOutputBackup at hr
  split_ifs at hr with hlt
  cases hi : ch.backupIndex? primary with
  | none =>
    rw [hi] at hr
    cases hr
  | some backup =>
    obtain ⟨p, hp⟩ : ∃ p, ch.outputs[primary]? = some p := ⟨_, List.getElem?_eq_getElem hlt⟩
    rw [hi] at hr
    simp only [backupIndex?, hp, Option.bind_some] at hi
    obtain ⟨id, hlink, hpos⟩ := Option.bind_eq_some_iff.mp hi
    obtain ⟨b, hb, rfl⟩ := position?_getElem hpos
    refine ⟨p.id, b.id, ⟨p, List.mem_of_getElem? hp, rfl, hlink⟩, ?_⟩
    let release : Output → Output := ({ · with backup := none, failoverActive := false })
    let letGo : Output → Output := ({ · with primary := none, failoverActive := false })
    have hid : ∀ o, (Output.atId p.id release o).id = o.id := Output.atId_id p.id fun _ => rfl
    have hb' : (ch.changeOutputs (Output.atId p.id release)).outputs[backup]? =
        some (Output.atId p.id release b) := by
      simp [changeOutputs, hb]
    have hsecond := (h.change hid).changeOutput_eq hb' letGo
    rw [hid, changeOutputs_twice] at hsecond
    have hfirst := h.changeOutput_eq hp release
    rw [← Except.ok.inj hr]
    change (ch.changeOutput primary release).changeOutput backup letGo = _
    rw [hfirst, hsecond]
    refine changeOutputs_congr fun o _ => ?_
    simp only [Function.comp_apply, Output.atId, Output.parted, release, letGo]
    split_ifs <;> simp_all

theorem Linked.removeBackup {ch ch' : Channel} (h : ch.Linked) {primary : Nat}
    (hr : ch.removeOutputBackup primary = .ok ch') : ch'.Linked := by
  obtain ⟨p, b, hpb, rfl⟩ := removeOutputBackup_eq h.distinct hr
  have hid := Output.parted_id p b
  refine h.of_fewer (fun x y => x ≠ p ∧ y ≠ b) (h.distinct.change hid)
    (below_changeOutputs hid h.below) (fun x y => ?_) fun y x => ?_
  · refine Iff.trans (links_cleared hid (fun _ => rfl) x y) ?_
    refine and_congr_right fun hold => ⟨fun hx => ⟨hx, ?_⟩, And.left⟩
    rintro rfl
    exact hx (h.distinct.links_unique ((h.symm _ _).mp hold) ((h.symm _ _).mp hpb))
  · refine Iff.trans (links_cleared hid (fun _ => rfl) y x) ?_
    refine and_congr_right fun hold => ⟨fun hy => ⟨?_, hy⟩, And.right⟩
    rintro rfl
    exact hy (h.distinct.links_unique ((h.symm _ _).mpr hold) hpb)

theorem link_steps (ch : Channel) (primary backup : Nat) (p b : OutputId) :
    ch.link primary backup p b =
      let bare := ch.changeAt (ch.backupIndex? primary) ({ · with primary := none })
      let free := bare.changeAt (bare.primaryIndex? backup) ({ · with backup := none })
      (free.changeOutput primary ({ · with backup := some b })).changeOutput backup
        ({ · with primary := some p }) := by
  unfold link changeAt
  cases ch.backupIndex? primary <;> rfl

/-- Linking as one change of every output: the two ends get the new link, and whoever was linked to
them before is let go. -/
theorem Wired.link_eq {ch : Channel} (h : ch.Wired) {primary backup : Nat} {p b : Output}
    (hp : ch.outputs[primary]? = some p) (hb : ch.outputs[backup]? = some b) (hne : p.id ≠ b.id)
    (hnew : p.backup ≠ some b.id) :
    ch.link primary backup p.id b.id = ch.changeOutputs (Output.linked p.id b.id) := by
  have hd := h.distinct
  let first (o : Output) : Output := if p.backup = some o.id then { o with primary := none } else o
  let second (o : Output) : Output := if b.primary = some o.id then { o with backup := none } else o
  let third : Output → Output := Output.atId p.id fun o => { o with backup := some b.id }
  have hfirst (o : Output) : (first o).id = o.id := by
    simp only [first]
    split_ifs <;> rfl
  have hsecond (o : Output) : (second o).id = o.id := by
    simp only [second]
    split_ifs <;> rfl
  have hthird : ∀ o, (third o).id = o.id := Output.atId_id p.id fun _ => rfl
  have hd₁ := hd.change hfirst
  have hd₂ := hd₁.change hsecond
  -- The first change lets the old backup go, which is not the new one, so the second look-up still
  -- sees the primary that the new backup had.
  have hb₁ : (ch.changeOutputs first).outputs[backup]? = some b := by
    rw [getElem?_changeOutputs hb]
    simp [first, hnew]
  have hi : ch.backupIndex? primary = p.backup.bind ch.position? := by
    simp [backupIndex?, hp]
  have hj : (ch.changeOutputs first).primaryIndex? backup =
      b.primary.bind (ch.changeOutputs first).position? := by
    simp [primaryIndex?, hb₁]
  have hp₂ := getElem?_changeOutputs (getElem?_changeOutputs hp first) second
  have hb₃ := getElem?_changeOutputs (getElem?_changeOutputs hb₁ second) third
  have hdo := hd₂.changeOutput_eq hp₂ fun o => { o with backup := some b.id }
  have hre := (hd₂.change hthird).changeOutput_eq hb₃ fun o => { o with primary := some p.id }
  rw [hsecond, hfirst] at hdo
  rw [hthird, hsecond] at hre
  simp only [link_steps, hi, hd.changeAt_eq]
  rw [hj, hd₁.changeAt_eq, hdo, hre]
  simp only [changeOutputs_twice]
  refine changeOutputs_congr fun o ho => ?_
  have hprimary : p.backup = some o.id ↔ o.primary = some p.id := by
    rw [← hd.links_iff (List.mem_of_getElem? hp), ← hd.links_iff ho]
    exact h.symm p.id o.id
  have hbackup : b.primary = some o.id ↔ o.backup = some b.id := by
    rw [← hd.links_iff (List.mem_of_getElem? hb), ← hd.links_iff ho]
    exact (h.symm o.id b.id).symm
  simp only [Function.comp_apply, first, second, third, Output.atId, Output.linked, hprimary]
  split_ifs <;> simp_all

theorem Distinct.backupOf?_eq_some {ch : Channel} (h : ch.Distinct) {a b : OutputId} :
    ch.backupOf? a = some b ↔ ch.HasBackup a b := by
  unfold backupOf?
  constructor
  · intro he
    obtain ⟨o, ho, hb⟩ := Option.bind_eq_some_iff.mp he
    exact ⟨o, List.mem_of_find?_eq_some ho, by simpa using List.find?_some ho, hb⟩
  · rintro ⟨o, ho, rfl, hb⟩
    rwa [find?_name h ho, Option.bind_some]

theorem not_reaches_of_chainMeets {ch : Channel} (h : ch.Distinct) {target : OutputId} {steps : Nat}
    {id : OutputId} (hmeets : ch.chainMeets target steps id = false) :
    ¬ ReflTransGen ch.HasBackup id target := by
  induction steps generalizing id with
  | zero => cases hmeets
  | succ n ih =>
    rw [chainMeets, Bool.or_eq_false_iff] at hmeets
    obtain ⟨hne, hrest⟩ := hmeets
    intro hreach
    obtain rfl | ⟨next, hnext, hon⟩ := ReflTransGen.cases_head hreach
    · simp at hne
    · rw [h.backupOf?_eq_some.mpr hnext] at hrest
      exact ih hrest hon

/-- A path through a graph with one edge more either does without it or ends beyond it. -/
theorem path_with_edge {r r' : OutputId → OutputId → Prop} {p b : OutputId}
    (hedge : ∀ x y, r' x y → (x = p ∧ y = b) ∨ r x y) {a c : OutputId} (hpath : TransGen r' a c) :
    TransGen r a c ∨ (ReflTransGen r a p ∧ ReflTransGen r b c) := by
  -- On from where the new edge was last taken, the path does without it.
  induction hpath with
  | single hac =>
    obtain ⟨rfl, rfl⟩ | hr := hedge _ _ hac
    · exact .inr ⟨.refl, .refl⟩
    · exact .inl (.single hr)
  | tail _ hlast ih =>
    obtain ⟨rfl, rfl⟩ | hr := hedge _ _ hlast
    · obtain hold | ⟨hto, _⟩ := ih
      · exact .inr ⟨hold.to_reflTransGen, .refl⟩
      · exact .inr ⟨hto, .refl⟩
    · obtain hold | ⟨hto, hfrom⟩ := ih
      · exact .inl (hold.tail hr)
      · exact .inr ⟨hto, hfrom.tail hr⟩

theorem Linked.setBackup {ch ch' : Channel} (h : ch.Linked) {primary backup : Nat}
    (hs : ch.setOutputBackup primary backup = .ok ch') : ch'.Linked := by
  unfold setOutputBackup at hs
  cases hp : ch.outputs[primary]? with
  | none => simp [hp] at hs
  | some p =>
    cases hb : ch.outputs[backup]? with
    | none => simp [hp, hb] at hs
    | some b =>
      simp only [hp, hb] at hs
      split_ifs at hs with hself hsame hmeets
      · cases hs
        exact h
      · have hne : p.id ≠ b.id := fun he => hself (h.distinct.index_eq hp hb he)
        have hfree := not_reaches_of_chainMeets h.distinct (Bool.eq_false_iff.mpr hmeets)
        obtain rfl : ch.changeOutputs (Output.linked p.id b.id) = ch' := by
          rw [← h.wired.link_eq hp hb hne hsame]
          exact Except.ok.inj hs
        have hid := Output.linked_id p.id b.id
        have hback : ∀ x y, HasBackup _ x y ↔ _ :=
          links_set hid (List.mem_of_getElem? hp) fun _ => rfl
        have hprim : ∀ y x, HasPrimary _ y x ↔ _ :=
          links_set hid (List.mem_of_getElem? hb) fun _ => rfl
        constructor
        · exact h.distinct.change hid
        · exact below_changeOutputs hid h.below
        · intro x y
          refine (hback x y).trans (Iff.trans ?_ (hprim y x).symm)
          exact or_congr and_comm (and_congr (h.symm x y) and_comm)
        · intro a ha
          obtain hold | ⟨hto, hfrom⟩ :=
            path_with_edge (fun x y hxy => ((hback x y).mp hxy).imp (fun h => h) And.left) ha
          · exact h.acyclic a hold
          · exact hfree (hfrom.trans hto)

end Channel

end Simulcast
