import Simulcast.Proofs.Channel.Tending

/-!
# Failover and health passes

What these do on the air they do one output after the other, and the next step meets the channel and
the connection that the last one left. Each keeps the skeleton of the channel, so whatever tending
keeps is kept by all of them.
-/

namespace Simulcast

namespace Channel

variable {σ : Type} [Service σ] {reference : String} {R : Connection σ → Connection σ → Prop}
  {Known : Connection σ → String → Prop}

/-! ### Failover -/

theorem swapRemote_tended (T : Tending reference R Known) {ch : Channel}
    (hr : ch.RefersTo reference) (outgoing incoming : Nat) (c : Connection σ) :
    R c (ch.swapRemote outgoing incoming c).2 := by
  unfold swapRemote
  have hf := findProcess_tended T hr c
  generalize ch.findProcess c = found at hf ⊢
  obtain ⟨error | process, c₁⟩ := found
  · exact hf.1
  · have hk : Known c₁ process.id := hf.2 process rfl
    rcases ch.processOutput? incoming with _ | added
    · exact hf.1
    rcases ch.remoteOutputId? outgoing with _ | removed
    · exact hf.1
    have hadd := T.add added hk
    have h₂ := T.trans hf.1 hadd
    simp only
    generalize c₁.perform (.addOutput process.id added) = answer at hadd h₂ ⊢
    obtain ⟨error | _, c₂⟩ := answer
    · simp only
      split_ifs
      · exact T.trans h₂ (T.remove removed (T.keeps hadd hk))
      · exact h₂
    · exact T.trans h₂ (T.remove removed (T.keeps hadd hk))

theorem swapIfActive_tended (T : Tending reference R Known) {ch : Channel}
    (hr : ch.RefersTo reference) (outgoing incoming : Nat) (c : Connection σ) :
    R c (ch.swapIfActive outgoing incoming c).2 := by
  unfold swapIfActive
  split_ifs
  · exact swapRemote_tended T hr outgoing incoming c
  · exact T.refl c

theorem skeleton_changeBoth (ch : Channel) (primary backup : Nat) {f g : Output → Output}
    (hf : ∀ o, (f o).ends = o.ends) (hg : ∀ o, (g o).ends = o.ends) :
    ((ch.changeOutput primary f).changeOutput backup g).skeleton = ch.skeleton :=
  (skeleton_changeOutput _ backup g fun o _ => hg o).trans
    (ch.skeleton_changeOutput primary f fun o _ => hf o)

theorem triggerFailover_tended (T : Tending reference R Known) {ch : Channel}
    (hr : ch.RefersTo reference) (primary : Nat) (c : Connection σ) :
    (ch.triggerFailover primary c).channel.skeleton = ch.skeleton ∧
      R c (ch.triggerFailover primary c).connection := by
  unfold triggerFailover
  cases ho : ch.outputs[primary]? with
  | none => exact ⟨rfl, T.refl c⟩
  | some output =>
    cases hb : ch.backupIndex? primary with
    | none => exact ⟨rfl, T.refl c⟩
    | some backup =>
      simp only
      split_ifs
      · exact ⟨rfl, T.refl c⟩
      · have hswap := swapIfActive_tended T hr primary backup c
        generalize ch.swapIfActive primary backup c = swapped at hswap ⊢
        obtain ⟨error | _, c'⟩ := swapped
        · exact ⟨rfl, hswap⟩
        · exact ⟨ch.skeleton_changeBoth primary backup (fun o => rfl) fun o => rfl, hswap⟩

theorem restorePrimary_tended (T : Tending reference R Known) {ch : Channel}
    (hr : ch.RefersTo reference) (primary : Nat) (c : Connection σ) :
    (ch.restorePrimary primary c).channel.skeleton = ch.skeleton ∧
      R c (ch.restorePrimary primary c).connection := by
  unfold restorePrimary
  cases ho : ch.outputs[primary]? with
  | none => exact ⟨rfl, T.refl c⟩
  | some output =>
    cases hb : ch.backupIndex? primary with
    | none => exact ⟨rfl, T.refl c⟩
    | some backup =>
      simp only
      split_ifs
      · have hswap := swapIfActive_tended T hr backup primary c
        generalize ch.swapIfActive backup primary c = swapped at hswap ⊢
        obtain ⟨error | _, c'⟩ := swapped
        · exact ⟨rfl, hswap⟩
        · exact ⟨ch.skeleton_changeBoth primary backup (fun o => rfl) fun o => rfl, hswap⟩
      · exact ⟨rfl, T.refl c⟩

theorem failoverEach_tended (T : Tending reference R Known) {ch : Channel}
    (hr : ch.RefersTo reference) (indices : List Nat) (c : Connection σ) :
    (failoverEach indices ch c).2.1.skeleton = ch.skeleton ∧
      R c (failoverEach indices ch c).2.2 := by
  induction indices generalizing ch c with
  | nil => exact ⟨rfl, T.refl c⟩
  | cons index rest ih =>
    obtain ⟨hs, hR⟩ := triggerFailover_tended T hr index c
    obtain ⟨hs', hR'⟩ := ih (hr.of_skeleton hs) (ch.triggerFailover index c).connection
    exact ⟨hs'.trans hs, T.trans hR hR'⟩

theorem checkFailover_tended (T : Tending reference R Known) {ch : Channel}
    (hr : ch.RefersTo reference) (c : Connection σ) :
    (ch.checkFailover c).2.1.skeleton = ch.skeleton ∧ R c (ch.checkFailover c).2.2 := by
  unfold checkFailover
  split_ifs
  · exact failoverEach_tended T hr _ c
  · exact ⟨rfl, T.refl c⟩

/-! ### Health passes -/

theorem inspectOutput_tended (T : Tending reference R Known) {ch : Channel}
    (hr : ch.RefersTo reference) (present : List String) (checkedAt index : Nat)
    (c : Connection σ) :
    (inspectOutput present checkedAt index ch c).1.skeleton = ch.skeleton ∧
      R c (inspectOutput present checkedAt index ch c).2 := by
  unfold inspectOutput
  cases ho : ch.outputs[index]? with
  | none => exact ⟨rfl, T.refl c⟩
  | some output =>
    have hs := ch.skeleton_changeOutput index
      (fun _ => { output with lastCheck := some checkedAt }.markMissing) (by
        intro o he
        obtain rfl : output = o := Option.some.inj (ho.symm.trans he)
        rfl)
    simp only
    split_ifs
    · exact ⟨ch.skeleton_changeOutput index _ fun o _ => rfl, T.refl c⟩
    · obtain ⟨hs', hR⟩ := reconnectOutput_tended T (hr.of_skeleton hs) index c
      exact ⟨hs'.trans hs, hR⟩
    · exact ⟨hs, T.refl c⟩
    · exact ⟨rfl, T.refl c⟩

theorem inspectEach_tended (T : Tending reference R Known) {ch : Channel}
    (hr : ch.RefersTo reference) (present : List String) (checkedAt : Nat) (indices : List Nat)
    (c : Connection σ) :
    (inspectEach present checkedAt indices ch c).1.skeleton = ch.skeleton ∧
      R c (inspectEach present checkedAt indices ch c).2 := by
  induction indices generalizing ch c with
  | nil => exact ⟨rfl, T.refl c⟩
  | cons index rest ih =>
    obtain ⟨hs, hR⟩ := inspectOutput_tended T hr present checkedAt index c
    obtain ⟨hs', hR'⟩ := ih (hr.of_skeleton hs) (inspectOutput present checkedAt index ch c).2
    exact ⟨hs'.trans hs, T.trans hR hR'⟩

theorem healthPass_tended (T : Tending reference R Known) {ch : Channel}
    (hr : ch.RefersTo reference) (now : Instant) (c : Connection σ) :
    (ch.healthPass now c).2.1.skeleton = ch.skeleton ∧ R c (ch.healthPass now c).2.2 := by
  have hs : ({ ch with lastCheck := some now } : Channel).skeleton = ch.skeleton := rfl
  simp only [healthPass]
  generalize ({ ch with lastCheck := some now } : Channel) = noted at hs ⊢
  have hr' := hr.of_skeleton hs
  have hf := findProcess_tended T hr' c
  generalize noted.findProcess c = found at hf ⊢
  obtain ⟨error | process, c₁⟩ := found
  · exact ⟨hs, hf.1⟩
  · have hk : Known c₁ process.id := hf.2 process rfl
    simp only
    split_ifs
    · have hout := T.outputs hk
      generalize c₁.perform (.getOutputs process.id) = listed at hout ⊢
      obtain ⟨error | present, c₂⟩ := listed
      · exact ⟨hs, T.trans hf.1 hout⟩
      · obtain ⟨hs', hR⟩ := inspectEach_tended T hr' present now.unix
          (List.range noted.outputs.length) c₂
        exact ⟨hs'.trans hs, T.trans hf.1 (T.trans hout hR)⟩
    · obtain ⟨hs', hR⟩ := inspectEach_tended T hr' [] now.unix
        (List.range noted.outputs.length) c₁
      exact ⟨hs'.trans hs, T.trans hf.1 hR⟩

theorem checkHealth_tended (T : Tending reference R Known) {ch : Channel}
    (hr : ch.RefersTo reference) (c : Connection σ) :
    (ch.checkHealth c).2.1.skeleton = ch.skeleton ∧ R c (ch.checkHealth c).2.2 := by
  unfold checkHealth
  split_ifs
  · exact healthPass_tended T hr c.now c
  · exact ⟨rfl, T.refl c⟩

end Channel

end Simulcast
