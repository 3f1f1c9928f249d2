import Simulcast.Proofs.Failover.Agreement

/-!
# Failovers when the wiring changes

Taking outputs away and clearing a backup link loosen links. Setting a link cuts the links that make
way for it, and leaves everybody failed over who was. An output that is added has no links and is
not failed over.
-/

namespace Simulcast

namespace Channel

variable {ch ch' : Channel}

/-! ### Taking outputs away -/

theorem unlink_loosened (id : OutputId) (o : Output) : o.Loosened (unlink id o) := by
  refine ⟨rfl, ?_, ?_, rfl, ?_⟩
  · by_cases hb : o.backup = some id <;> simp [unlink, hb]
  · by_cases hp : o.primary = some id <;> simp [unlink, hp]
  · by_cases hb : o.backup = some id
    · simp [unlink, hb]
    · by_cases hp : o.primary = some id <;> simp [unlink, hb, hp]

theorem unlink_notLinked {id : OutputId} {o y : Output} (h : (unlink id o).LinkedTo y) :
    y.id ≠ id := by
  rintro rfl
  rcases h with hb | hp
  · simp only [unlink] at hb
    split_ifs at hb with hself
    exact hself hb
  · simp only [unlink] at hp
    split_ifs at hp with hself
    exact hself hp

theorem Distinct.drop_loosened (h : ch.Distinct) (index : Nat) :
    ch.Loosened (ch.dropOutput index) := by
  unfold dropOutput
  cases hr : ch.outputs[index]? with
  | none => exact .refl ch
  | some removed =>
    refine ⟨fun x' hx' => ?_, fun x' hx' y hy hlinked => ?_⟩
    · obtain ⟨x, hx, rfl⟩ := List.mem_map.mp hx'
      exact ⟨x, ((h.mem_eraseIdx hr).mp hx).1, unlink_loosened removed.id x⟩
    · obtain ⟨x, hx, rfl⟩ := List.mem_map.mp hx'
      have hstays := (h.mem_eraseIdx hr).mpr ⟨hy, unlink_notLinked hlinked⟩
      exact ⟨unlink removed.id y, List.mem_map_of_mem hstays, rfl⟩

/-! ### Clearing a backup link -/

theorem Linked.parted_loosened (h : ch.Linked) {p b : OutputId} (hpb : ch.HasBackup p b) :
    ch.Loosened (ch.changeOutputs (Output.parted p b)) := by
  have hbp := (h.symm p b).mp hpb
  refine ⟨fun x' hx' => ?_, fun x' hx' y hy _ => ?_⟩
  · obtain ⟨x, hx, rfl⟩ := List.mem_map.mp hx'
    refine ⟨x, hx, rfl, ?_, ?_, rfl, ?_⟩
    · by_cases hp : x.id = p <;> simp [Output.parted, hp]
    · by_cases hb : x.id = b <;> simp [Output.parted, hb]
    · have hbackup : x.id = p → x.backup = some b := fun he =>
        (h.distinct.links_iff hx).mp (he ▸ hpb)
      have hprimary : x.id = b → x.primary = some p := fun he =>
        (h.distinct.links_iff hx).mp (he ▸ hbp)
      by_cases hp : x.id = p
      · simp [Output.parted, hp, hbackup hp]
      · by_cases hb : x.id = b
        · simp [Output.parted, hb, hprimary hb]
        · simp [Output.parted, hp, hb]
  · exact ⟨y.parted p b, List.mem_map_of_mem hy, rfl⟩

/-! ### Adding an output -/

theorem FailoversAgree.add (h : ch.FailoversAgree) (platform : Platform) (streamKey : String)
    (orientation : Orientation) (encoding : Encoding) :
    (ch.addOutput platform streamKey orientation encoding).2.FailoversAgree := by
  simp only [FailoversAgree, addOutput, List.forall_mem_append, List.forall_mem_singleton]
  refine ⟨fun x hx => ⟨fun hactive => ?_, (h x hx).unstamped⟩, ⟨fun hactive => ?_, fun _ => rfl⟩⟩
  · obtain ⟨y, hy, hjoined⟩ := (h x hx).joined hactive
    exact ⟨y, List.mem_append_left _ hy, hjoined⟩
  · cases hactive

theorem Stamped.add (h : ch.Stamped) (platform : Platform) (streamKey : String)
    (orientation : Orientation) (encoding : Encoding) :
    (ch.addOutput platform streamKey orientation encoding).2.Stamped := by
  simp only [Stamped, addOutput, List.forall_mem_append, List.forall_mem_singleton]
  exact ⟨h, fun hactive => absurd hactive Bool.false_ne_true⟩

/-! ### Setting a link -/

end Channel

/-- The link between the two is none of those that make way for one from `p` to `b`. -/
def Output.KeptTo (p b : OutputId) (x y : Output) : Prop :=
  (x.backup = some y.id ∧ x.id ≠ p ∧ y.id ≠ b) ∨ (x.primary = some y.id ∧ x.id ≠ b ∧ y.id ≠ p)

theorem Output.linked_backup_iff (p b : OutputId) (x : Output) (y : OutputId) :
    (x.linked p b).backup = some y ↔
      (x.backup = some y ∧ x.id ≠ p ∧ y ≠ b) ∨ (x.id = p ∧ y = b) := by
  by_cases hp : x.id = p
  · simp [Output.linked, hp, eq_comm]
  · by_cases hb : x.backup = some b
    · simp [Output.linked, hp, hb, eq_comm]
    · have hne : x.backup = some y → y ≠ b := fun hy he => hb (he ▸ hy)
      simpa [Output.linked, hp, hb] using hne

theorem Output.linked_primary_iff (p b : OutputId) (x : Output) (y : OutputId) :
    (x.linked p b).primary = some y ↔
      (x.primary = some y ∧ x.id ≠ b ∧ y ≠ p) ∨ (x.id = b ∧ y = p) := by
  by_cases hb : x.id = b
  · simp [Output.linked, hb, eq_comm]
  · by_cases hp : x.primary = some p
    · simp [Output.linked, hp, hb, eq_comm]
    · have hne : x.primary = some y → y ≠ p := fun hy he => hp (he ▸ hy)
      simpa [Output.linked, hp, hb] using hne

theorem Output.KeptTo.linkedTo {p b : OutputId} {x y : Output} (h : x.KeptTo p b y) :
    x.LinkedTo y :=
  h.imp And.left And.left

/-- After linking, links are those that were kept and the new one. -/
theorem Output.linkedTo_linked_iff (p b : OutputId) (x y : Output) :
    (x.linked p b).LinkedTo (y.linked p b) ↔
      x.KeptTo p b y ∨ (x.id = p ∧ y.id = b) ∨ (x.id = b ∧ y.id = p) := by
  rw [Output.LinkedTo, Output.linked_backup_iff, Output.linked_primary_iff, Output.linked_id,
    Output.KeptTo]
  tauto

namespace Channel

variable {ch ch' : Channel}

/-- The output at the one position gets the output at the other as its backup, and had another one
or none. -/
structure Relinks (ch : Channel) (primary backup : Nat) (p b : Output) : Prop where
  atPrimary : ch.outputs[primary]? = some p
  atBackup : ch.outputs[backup]? = some b
  other : p.backup ≠ some b.id
  granted : (ch.setOutputBackup primary backup).isOk

/-- An output that is failed over loses the links to all it is failed over with, and is not failed
over together with the other end of the new link either. -/
def Uproots (ch : Channel) (p b : Output) : Prop :=
  ∃ x, ch.Relies x (fun y => ¬ x.KeptTo p.id b.id y) ∧
    ¬ ((x = p ∨ x = b) ∧ p.failoverActive ∧ b.failoverActive ∧ b.failoverStart = p.failoverStart)

theorem Relinks.run {p b : Output} {primary backup : Nat} (h : ch.Linked)
    (hr : ch.Relinks primary backup p b) :
    p.id ≠ b.id ∧
      ch.setOutputBackup primary backup = .ok (ch.changeOutputs (Output.linked p.id b.id)) := by
  have hgranted := hr.granted
  simp only [setOutputBackup, hr.atPrimary, hr.atBackup, if_neg hr.other] at hgranted ⊢
  split_ifs at hgranted ⊢ with hself hmeets
  · cases hgranted
  · cases hgranted
  · have hne : p.id ≠ b.id := fun he => hself (h.distinct.index_eq hr.atPrimary hr.atBackup he)
    exact ⟨hne, congrArg Except.ok (h.wired.link_eq hr.atPrimary hr.atBackup hne hr.other)⟩

theorem setOutputBackup_same {primary backup : Nat}
    (hs : ch.setOutputBackup primary backup = .ok ch')
    (hnone : ¬ ∃ p b, ch.Relinks primary backup p b) : ch' = ch := by
  cases hp : ch.outputs[primary]? with
  | none => simp [setOutputBackup, hp] at hs
  | some p =>
    cases hb : ch.outputs[backup]? with
    | none => simp [setOutputBackup, hp, hb] at hs
    | some b =>
      have hsame : p.backup = some b.id := by
        by_contra hother
        exact hnone ⟨p, b, hp, hb, hother, by rw [hs]; rfl⟩
      simp only [setOutputBackup, hp, hb, if_pos hsame] at hs
      split_ifs at hs
      exact (Except.ok.inj hs).symm

theorem Distinct.agrees_linked_iff (hd : ch.Distinct) (ha : ch.FailoversAgree) {p b : Output}
    (hp : p ∈ ch.outputs) (hb : b ∈ ch.outputs) (hne : p.id ≠ b.id) :
    (ch.changeOutputs (Output.linked p.id b.id)).FailoversAgree ↔ ¬ ch.Uproots p b := by
  rw [agrees_changeOutputs_iff]
  constructor
  · rintro hafter ⟨x, hx, hapart⟩
    obtain ⟨y, hy, hlinked, hactive, hstart⟩ := (hafter x hx.mem).1 hx.active
    rcases (Output.linkedTo_linked_iff _ _ x y).mp hlinked with hkept | ⟨hxp, hyb⟩ | ⟨hxb, hyp⟩
    · exact hx.only y hy ⟨hkept.linkedTo, hactive, hstart⟩ hkept
    · obtain rfl := hd.eq_of_id hx.mem hp hxp
      obtain rfl := hd.eq_of_id hy hb hyb
      exact hapart ⟨.inl rfl, hx.active, hactive, hstart⟩
    · obtain rfl := hd.eq_of_id hx.mem hb hxb
      obtain rfl := hd.eq_of_id hy hp hyp
      exact hapart ⟨.inr rfl, hactive, hx.active, hstart.symm⟩
  · intro hrooted x hx
    refine ⟨fun hactive => ?_, (ha x hx).unstamped⟩
    by_contra hnone
    refine hrooted ⟨x, ⟨hx, hactive, fun y hy hjoined hkept => hnone ⟨y, hy, ?_⟩⟩, ?_⟩
    · exact ⟨(Output.linkedTo_linked_iff _ _ x y).mpr (.inl hkept), hjoined.active, hjoined.start⟩
    · rintro ⟨rfl | rfl, hpactive, hbactive, hsince⟩
      · exact hnone ⟨b, hb, (Output.linkedTo_linked_iff _ _ x b).mpr (.inr (.inl ⟨rfl, rfl⟩)),
          hbactive, hsince⟩
      · exact hnone ⟨p, hp, (Output.linkedTo_linked_iff _ _ x p).mpr (.inr (.inr ⟨rfl, rfl⟩)),
          hpactive, hsince.symm⟩

theorem Stamped.linked (h : ch.Stamped) (p b : OutputId) :
    (ch.changeOutputs (Output.linked p b)).Stamped := by
  simp only [Stamped, changeOutputs, List.forall_mem_map]
  exact h

end Channel

end Simulcast
