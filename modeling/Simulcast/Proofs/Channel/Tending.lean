import Simulcast.Proofs.Channel.Skeleton

/-!
# What the operations on the air do to channel and connection

Every such operation looks the process of the channel up, asks for its outputs, and adds or removes
some; it may sleep as well. A relation between connections that holds along each of these holds from
before the operation until after it, and the skeleton of the channel stays as it is.
-/

namespace Simulcast

variable {σ : Type} [Service σ]

/-- A relation that holds along all that is done about the outputs of the process under a reference.
`Known` are the process ids that were found under it. -/
structure Tending (reference : String) (R : Connection σ → Connection σ → Prop)
    (Known : Connection σ → String → Prop) : Prop where
  refl : ∀ c, R c c
  trans : ∀ {a b c}, R a b → R b c → R a c
  sleep : ∀ c d, R c (c.sleep d)
  find : ∀ c, R c (c.findProcess reference).connection
  found : ∀ (c : Connection σ) p, (c.findProcess reference).result = .ok (some p) →
    Known (c.findProcess reference).connection p.id
  keeps : ∀ {a b id}, R a b → Known a id → Known b id
  outputs : ∀ {c id}, Known c id → R c (c.perform (.getOutputs id)).connection
  add : ∀ {c id} output, Known c id → R c (c.perform (.addOutput id output)).connection
  remove : ∀ {c id} output, Known c id → R c (c.perform (.removeOutput id output)).connection

namespace Channel

/-- If the channel has a process at all, it is one under this reference. -/
def RefersTo (ch : Channel) (reference : String) : Prop :=
  ∀ r, ch.processReference = some r → r = reference

theorem refersTo_getD (ch : Channel) : ch.RefersTo (ch.processReference.getD "") := by
  intro r hr
  simp [hr]

theorem RefersTo.of_skeleton {ch ch' : Channel} {reference : String} (h : ch.RefersTo reference)
    (hs : ch'.skeleton = ch.skeleton) : ch'.RefersTo reference := by
  have hp : ch'.processReference = ch.processReference :=
    congrArg Standing.processReference (standing_eq hs)
  intro r hr
  exact h r (hp ▸ hr)

variable {reference : String} {R : Connection σ → Connection σ → Prop}
  {Known : Connection σ → String → Prop}

theorem findProcess_tended (T : Tending reference R Known) {ch : Channel}
    (hr : ch.RefersTo reference) (c : Connection σ) :
    R c (ch.findProcess c).2 ∧
      ∀ process, (ch.findProcess c).1 = .ok process → Known (ch.findProcess c).2 process.id := by
  unfold findProcess
  cases hp : ch.processReference with
  | none => exact ⟨T.refl c, fun _ h => nomatch h⟩
  | some r =>
    obtain rfl := hr r hp
    have hfind := T.find c
    have hfound := T.found c
    simp only
    generalize c.findProcess r = answer at hfind hfound ⊢
    obtain ⟨error | (_ | process), c'⟩ := answer
    · exact ⟨hfind, fun _ h => nomatch h⟩
    · exact ⟨hfind, fun _ h => nomatch h⟩
    · refine ⟨hfind, fun p hp => ?_⟩
      obtain rfl : process = p := Except.ok.inj hp
      exact hfound process rfl

theorem reconnectOutput_tended (T : Tending reference R Known) {ch : Channel}
    (hr : ch.RefersTo reference) (index : Nat) (c : Connection σ) :
    (ch.reconnectOutput index c).channel.skeleton = ch.skeleton ∧
      R c (ch.reconnectOutput index c).connection := by
  unfold reconnectOutput
  cases ho : ch.outputs[index]? with
  | none => exact ⟨rfl, T.refl c⟩
  | some output =>
    simp only
    split_ifs
    · exact ⟨rfl, T.refl c⟩
    · exact ⟨ch.skeleton_changeOutput index _ fun o _ => rfl, T.refl c⟩
    · have hsleep := T.sleep c ch.reconnect.delay
      have hf := findProcess_tended T hr (c.sleep ch.reconnect.delay)
      generalize ch.findProcess (c.sleep ch.reconnect.delay) = found at hf ⊢
      obtain ⟨error | process, c₁⟩ := found
      · exact ⟨rfl, T.trans hsleep hf.1⟩
      · have hk : Known c₁ process.id := hf.2 process rfl
        have h₁ : R c c₁ := T.trans hsleep hf.1
        simp only
        split_ifs
        · have hrem := T.remove (ch.pushed index output).id hk
          have h₂ := T.trans h₁ hrem
          have hadd := T.add (ch.pushed index output) (T.keeps hrem hk)
          generalize (c₁.perform (.removeOutput process.id _)).connection = c₂ at h₂ hadd ⊢
          have h₃ := T.trans h₂ hadd
          generalize c₂.perform (.addOutput process.id _) = added at h₃ ⊢
          obtain ⟨error | _, c₃⟩ := added
          · exact ⟨rfl, h₃⟩
          · exact ⟨ch.skeleton_changeOutput index _ fun o _ => rfl, h₃⟩
        · exact ⟨rfl, h₁⟩

/-! ### Changes on the air -/

theorem replaceRemote_tended (T : Tending reference R Known) {ch : Channel}
    (hr : ch.RefersTo reference) (index : Nat) (c : Connection σ) :
    R c (ch.replaceRemote index c).2 := by
  have hadd : ∀ id output c, Known c id → R c (replaceRemote.add id output c).2 := by
    intro id output c hk
    have h := T.add output hk
    unfold replaceRemote.add
    generalize c.perform (.addOutput id output) = added at h ⊢
    obtain ⟨error | _, c'⟩ := added <;> exact h
  unfold replaceRemote
  have hf := findProcess_tended T hr c
  generalize ch.findProcess c = found at hf ⊢
  obtain ⟨error | process, c₁⟩ := found
  · exact hf.1
  · have hk : Known c₁ process.id := hf.2 process rfl
    cases ch.processOutput? index with
    | none => exact hf.1
    | some output =>
      have hrem := T.remove output.id hk
      simp only
      generalize c₁.perform (.removeOutput process.id output.id) = removed at hrem ⊢
      obtain ⟨error | _, c₂⟩ := removed
      · simp only
        split_ifs
        · exact T.trans hf.1 (T.trans hrem (hadd _ _ _ (T.keeps hrem hk)))
        · exact T.trans hf.1 hrem
      · exact T.trans hf.1 (T.trans hrem (hadd _ _ _ (T.keeps hrem hk)))

theorem setEncodingLive_tended (T : Tending reference R Known) {ch : Channel}
    (hr : ch.RefersTo reference) (index : Nat) (encoding : Encoding) (c : Connection σ) :
    (ch.setEncodingLive index encoding c).channel.skeleton = ch.skeleton ∧
      R c (ch.setEncodingLive index encoding c).connection := by
  have hs := ch.skeleton_changeOutput index ({ · with encoding }) fun o _ => rfl
  unfold setEncodingLive
  cases ho : ch.outputs[index]? with
  | none => exact ⟨rfl, T.refl c⟩
  | some output =>
    simp only
    split_ifs
    · exact ⟨rfl, T.refl c⟩
    · have hrep := replaceRemote_tended T (hr.of_skeleton hs) index c
      generalize replaceRemote _ index c = replaced at hrep ⊢
      obtain ⟨error | _, c'⟩ := replaced
      · exact ⟨rfl, hrep⟩
      · exact ⟨(skeleton_changeOutput _ index Output.markConnected fun o _ => rfl).trans hs, hrep⟩
    · exact ⟨hs, T.refl c⟩

omit [Service σ] in
theorem tally_induction (step : Nat → Channel → Connection σ → Bool × Channel × Connection σ)
    {P : Channel → Connection σ → Prop}
    (hstep : ∀ index ch c, P ch c → P (step index ch c).2.1 (step index ch c).2.2)
    (indices : List Nat) (ch : Channel) (c : Connection σ) (h : P ch c) :
    P (tally step indices ch c).2.1 (tally step indices ch c).2.2 := by
  induction indices generalizing ch c with
  | nil => exact h
  | cons index rest ih => exact ih _ _ (hstep index ch c h)

theorem bulkLive_tended (T : Tending reference R Known) (operation : String)
    {step : String → Nat → Channel → Connection σ → Bool × Channel × Connection σ}
    (hstep : ∀ id index ch c, Known c id →
      (step id index ch c).2.1.skeleton = ch.skeleton ∧ R c (step id index ch c).2.2)
    {ch : Channel} (hr : ch.RefersTo reference) (indices : List Nat) (c : Connection σ) :
    (bulkLive operation step ch indices c).channel.skeleton = ch.skeleton ∧
      R c (bulkLive operation step ch indices c).connection := by
  unfold bulkLive
  split_ifs
  · exact ⟨rfl, T.refl c⟩
  · have hf := findProcess_tended T hr c
    generalize ch.findProcess c = found at hf ⊢
    obtain ⟨error | process, c₁⟩ := found
    · exact ⟨rfl, hf.1⟩
    · have hk : Known c₁ process.id := hf.2 process rfl
      have ht := tally_induction (step process.id)
        (P := fun ch' c' => ch'.skeleton = ch.skeleton ∧ R c c' ∧ Known c' process.id) (by
          intro index ch' c' hp
          obtain ⟨hs, hR⟩ := hstep process.id index ch' c' hp.2.2
          exact ⟨hs.trans hp.1, T.trans hp.2.1 hR, T.keeps hR hp.2.2⟩)
        indices ch c₁ ⟨rfl, hf.1, hk⟩
      exact ⟨ht.1, ht.2.1⟩

theorem startOutput_tended (T : Tending reference R Known) (id : String) (index : Nat)
    (ch : Channel) (c : Connection σ) (hk : Known c id) :
    (startOutput id index ch c).2.1.skeleton = ch.skeleton ∧
      R c (startOutput id index ch c).2.2 := by
  have hs := ch.skeleton_changeOutput index
    (fun o => { o with enabled := true }.markConnected) fun o _ => rfl
  unfold startOutput
  cases ho : ch.outputs[index]? with
  | none => exact ⟨rfl, T.refl c⟩
  | some output =>
    simp only
    split_ifs
    · exact ⟨rfl, T.refl c⟩
    · exact ⟨rfl, T.refl c⟩
    · have hadd := T.add (ch.pushed index output) hk
      generalize c.perform (.addOutput id (ch.pushed index output)) = added at hadd ⊢
      obtain ⟨error | _, c'⟩ := added
      · simp only
        split_ifs
        · exact ⟨hs, hadd⟩
        · exact ⟨rfl, hadd⟩
      · exact ⟨hs, hadd⟩

theorem stopOutput_tended (T : Tending reference R Known) (id : String) (index : Nat)
    (ch : Channel) (c : Connection σ) (hk : Known c id) :
    (stopOutput id index ch c).2.1.skeleton = ch.skeleton ∧ R c (stopOutput id index ch c).2.2 := by
  have hs := ch.skeleton_changeOutput index
    ({ · with enabled := false, connected := false }) fun o _ => rfl
  unfold stopOutput
  cases ho : ch.outputs[index]? with
  | none => exact ⟨rfl, T.refl c⟩
  | some output =>
    simp only
    split_ifs
    · have hrem := T.remove (remoteId output.platform index) hk
      generalize c.perform (.removeOutput id (remoteId output.platform index)) = removed at hrem ⊢
      obtain ⟨error | _, c'⟩ := removed
      · simp only
        split_ifs
        · exact ⟨hs, hrem⟩
        · exact ⟨rfl, hrem⟩
      · exact ⟨hs, hrem⟩
    · exact ⟨rfl, T.refl c⟩

end Channel

end Simulcast
