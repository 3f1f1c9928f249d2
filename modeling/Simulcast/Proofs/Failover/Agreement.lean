import Simulcast.Proofs.Backup.Sound
import Simulcast.Proofs.Failover.Stances

/-!
# Failovers and links

The failovers of a channel agree with its links when every output that is failed over has a link to
another one that is failed over since the same moment, and the others have no such moment. Clearing
links and setting them, failing over and restoring: for each it is said here when the agreement is
kept.
-/

namespace Simulcast

namespace Output

/-- One of the two is the backup of the other. -/
def LinkedTo (x y : Output) : Prop := x.backup = some y.id ∨ x.primary = some y.id

/-- The other end of a link is failed over, since the same moment as this one. -/
structure Joined (x y : Output) : Prop where
  linked : x.LinkedTo y
  active : y.failoverActive
  start : y.failoverStart = x.failoverStart

end Output

namespace Channel

/-- The output is failed over together with another one, or not at all. -/
structure Agrees (ch : Channel) (x : Output) : Prop where
  joined : x.failoverActive → ∃ y ∈ ch.outputs, x.Joined y
  unstamped : x.failoverActive = false → x.failoverStart = none

def FailoversAgree (ch : Channel) : Prop := ∀ x ∈ ch.outputs, ch.Agrees x

/-- Whoever is failed over has the moment when that happened. -/
def Stamped (ch : Channel) : Prop :=
  ∀ x ∈ ch.outputs, x.failoverActive → x.failoverStart ≠ none

/-- The output is failed over, and together with these only. -/
structure Relies (ch : Channel) (x : Output) (on : Output → Prop) : Prop where
  mem : x ∈ ch.outputs
  active : x.failoverActive
  only : ∀ y ∈ ch.outputs, x.Joined y → on y

variable {ch ch' : Channel}

/-! ### A matter of the stances -/

theorem mem_of_stances (h : ch'.stances = ch.stances) {x' : Output} (hx' : x' ∈ ch'.outputs) :
    ∃ x ∈ ch.outputs, x.stance = x'.stance :=
  List.mem_map.mp (h ▸ List.mem_map_of_mem hx' : x'.stance ∈ ch.stances)

theorem joined_of_stance {x x' y y' : Output} (h : x.Joined y) (hx : x.stance = x'.stance)
    (hy : y.stance = y'.stance) : x'.Joined y' := by
  obtain ⟨hends, hactive, hstart⟩ := Stance.mk.inj hx
  obtain ⟨hends', hactive', hstart'⟩ := Stance.mk.inj hy
  simp only [Output.ends, Prod.mk.injEq] at hends hends'
  refine ⟨?_, hactive' ▸ h.active, ?_⟩
  · rw [Output.LinkedTo, ← hends.2.1, ← hends.2.2, ← hends'.1]
    exact h.linked
  · rw [← hstart', ← hstart]
    exact h.start

theorem FailoversAgree.of_stances (h : ch.FailoversAgree) (hs : ch'.stances = ch.stances) :
    ch'.FailoversAgree := by
  intro x' hx'
  obtain ⟨x, hx, hstance⟩ := mem_of_stances hs hx'
  have hactive : x.failoverActive = x'.failoverActive := congrArg Stance.active hstance
  have hstart : x.failoverStart = x'.failoverStart := congrArg Stance.start hstance
  refine ⟨fun h' => ?_, fun h' => ?_⟩
  · obtain ⟨y, hy, hjoined⟩ := (h x hx).joined (hactive ▸ h')
    obtain ⟨y', hy', hstance'⟩ := mem_of_stances hs.symm hy
    exact ⟨y', hy', joined_of_stance hjoined hstance hstance'.symm⟩
  · exact hstart ▸ (h x hx).unstamped (hactive ▸ h')

theorem Stamped.of_stances (h : ch.Stamped) (hs : ch'.stances = ch.stances) : ch'.Stamped := by
  intro x' hx' hactive
  obtain ⟨x, hx, hstance⟩ := mem_of_stances hs hx'
  have hactive' : x.failoverActive = x'.failoverActive := congrArg Stance.active hstance
  have hstart : x.failoverStart = x'.failoverStart := congrArg Stance.start hstance
  exact hstart ▸ h x hx (hactive' ▸ hactive)

theorem agrees_changeOutputs_iff (g : Output → Output) :
    (ch.changeOutputs g).FailoversAgree ↔
      ∀ x ∈ ch.outputs, ((g x).failoverActive → ∃ y ∈ ch.outputs, (g x).Joined (g y)) ∧
        ((g x).failoverActive = false → (g x).failoverStart = none) := by
  simp only [FailoversAgree, changeOutputs, List.forall_mem_map]
  refine forall₂_congr fun x _ =>
    ⟨fun h => ⟨fun ha => ?_, h.unstamped⟩, fun h => ⟨fun ha => ?_, h.2⟩⟩
  · simpa using h.joined ha
  · simpa using h.1 ha

end Channel

/-! ### Clearing links -/

/-- The output after some of its links were cleared, and with them its failover. -/
structure Output.Loosened (x x' : Output) : Prop where
  id : x'.id = x.id
  backup : x'.backup = x.backup ∨ x'.backup = none
  primary : x'.primary = x.primary ∨ x'.primary = none
  start : x'.failoverStart = x.failoverStart
  active : x'.failoverActive ↔ x.failoverActive ∧ x'.backup = x.backup ∧ x'.primary = x.primary

theorem kept_between {a b c : Option OutputId} (hb : b = a ∨ b = none) (hc : c = b ∨ c = none)
    (hkept : c = a) : b = a ∧ c = b := by
  rcases hb with rfl | rfl
  · exact ⟨rfl, hkept⟩
  · have hnone : c = none := hc.elim (fun h => h) fun h => h
    exact ⟨hnone.symm.trans hkept, hnone⟩

namespace Output.Loosened

theorem refl (x : Output) : x.Loosened x :=
  ⟨rfl, .inl rfl, .inl rfl, rfl, ⟨fun h => ⟨h, rfl, rfl⟩, And.left⟩⟩

theorem trans {x y z : Output} (h : x.Loosened y) (h' : y.Loosened z) : x.Loosened z where
  id := h'.id.trans h.id
  backup := h'.backup.elim (fun hz => hz ▸ h.backup) .inr
  primary := h'.primary.elim (fun hz => hz ▸ h.primary) .inr
  start := h'.start.trans h.start
  active := by
    rw [h'.active, h.active]
    constructor
    · rintro ⟨⟨hx, hb, hp⟩, hb', hp'⟩
      exact ⟨hx, hb'.trans hb, hp'.trans hp⟩
    · rintro ⟨hx, hb, hp⟩
      obtain ⟨hb₁, hb₂⟩ := kept_between h.backup h'.backup hb
      obtain ⟨hp₁, hp₂⟩ := kept_between h.primary h'.primary hp
      exact ⟨⟨hx, hb₁, hp₁⟩, hb₂, hp₂⟩

end Output.Loosened

namespace Channel

/-- The channel after some links were cleared and some outputs taken away. -/
structure Loosened (ch ch' : Channel) : Prop where
  source : ∀ x' ∈ ch'.outputs, ∃ x ∈ ch.outputs, x.Loosened x'
  kept : ∀ x' ∈ ch'.outputs, ∀ y ∈ ch.outputs, x'.LinkedTo y → ∃ y' ∈ ch'.outputs, y'.id = y.id

/-- An output that is failed over is still there and has lost a link. -/
def Severs (ch ch' : Channel) : Prop :=
  ∃ x ∈ ch.outputs, x.failoverActive ∧
    ∃ x' ∈ ch'.outputs, x'.id = x.id ∧ (x'.backup ≠ x.backup ∨ x'.primary ≠ x.primary)

variable {ch ch' ch'' : Channel}

theorem Loosened.refl (ch : Channel) : ch.Loosened ch :=
  ⟨fun x hx => ⟨x, hx, .refl x⟩, fun _ _ y hy _ => ⟨y, hy, rfl⟩⟩

theorem Loosened.trans (h : ch.Loosened ch') (h' : ch'.Loosened ch'') : ch.Loosened ch'' := by
  refine ⟨fun x'' hx'' => ?_, fun x'' hx'' y hy hlinked => ?_⟩
  · obtain ⟨x', hx', hloose'⟩ := h'.source x'' hx''
    obtain ⟨x, hx, hloose⟩ := h.source x' hx'
    exact ⟨x, hx, hloose.trans hloose'⟩
  · obtain ⟨x', hx', hloose'⟩ := h'.source x'' hx''
    have hlinked' : x'.LinkedTo y := by
      refine hlinked.imp (fun hb => ?_) fun hp => ?_
      · rcases hloose'.backup with he | he
        · exact he ▸ hb
        · cases he.symm.trans hb
      · rcases hloose'.primary with he | he
        · exact he ▸ hp
        · cases he.symm.trans hp
    obtain ⟨y', hy', hid⟩ := h.kept x' hx' y hy hlinked'
    have hlinked'' : x''.LinkedTo y' := by
      rw [Output.LinkedTo, hid]
      exact hlinked
    obtain ⟨y'', hy'', hid'⟩ := h'.kept x'' hx'' y' hy' hlinked''
    exact ⟨y'', hy'', hid'.trans hid⟩

/-- An output that is not failed over after a link was cleared may still have the moment since when
it was. -/
theorem Loosened.agrees_iff (h : ch.Loosened ch') (hd : ch.Distinct) (hs : ch.Stamped)
    (ha : ch.FailoversAgree) : ch'.FailoversAgree ↔ ¬ ch.Severs ch' := by
  have from_eq {x x' : Output} (hx : x ∈ ch.outputs) (hx' : x' ∈ ch'.outputs)
      (hid : x'.id = x.id) : x.Loosened x' := by
    obtain ⟨x₀, hx₀, hloose⟩ := h.source x' hx'
    obtain rfl := hd.eq_of_id hx₀ hx (hloose.id.symm.trans hid)
    exact hloose
  constructor
  · rintro ha' ⟨x, hx, hactive, x', hx', hid, hlost⟩
    have hloose := from_eq hx hx' hid
    have hcleared : ¬ x'.failoverActive := fun hactive' => by
      obtain ⟨_, hb, hp⟩ := hloose.active.mp hactive'
      exact hlost.elim (fun hne => hne hb) fun hne => hne hp
    have hnone := (ha' x' hx').unstamped (Bool.eq_false_iff.mpr hcleared)
    exact hs x hx hactive (hloose.start.symm.trans hnone)
  · intro hkept x' hx'
    obtain ⟨x, hx, hloose⟩ := h.source x' hx'
    refine ⟨fun hactive' => ?_, fun hinactive' => hloose.start.trans ?_⟩
    · obtain ⟨hactive, hb, hp⟩ := hloose.active.mp hactive'
      obtain ⟨y, hy, hjoined⟩ := (ha x hx).joined hactive
      have hlinked : x'.LinkedTo y := by
        rw [Output.LinkedTo, hb, hp]
        exact hjoined.linked
      obtain ⟨y', hy', hid⟩ := h.kept x' hx' y hy hlinked
      have hloose' := from_eq hy hy' hid
      have hsame : y'.backup = y.backup ∧ y'.primary = y.primary := by
        by_contra hlost
        exact hkept ⟨y, hy, hjoined.active, y', hy', hid, by tauto⟩
      refine ⟨y', hy', ?_, hloose'.active.mpr ⟨hjoined.active, hsame⟩, ?_⟩
      · rw [Output.LinkedTo, hid]
        exact hlinked
      · rw [hloose'.start, hjoined.start, hloose.start]
    · refine (ha x hx).unstamped (Bool.eq_false_iff.mpr fun hactive => ?_)
      have hlost : ¬ (x'.backup = x.backup ∧ x'.primary = x.primary) := fun hsame =>
        absurd (hloose.active.mpr ⟨hactive, hsame⟩) (by simp [hinactive'])
      exact hkept ⟨x, hx, hactive, x', hx', hloose.id, by tauto⟩

theorem Loosened.stamped (h : ch.Loosened ch') (hs : ch.Stamped) : ch'.Stamped := by
  intro x' hx' hactive'
  obtain ⟨x, hx, hloose⟩ := h.source x' hx'
  rw [hloose.start]
  exact hs x hx (hloose.active.mp hactive').1

end Channel

end Simulcast
