import Simulcast.Proofs.Backup.Sound
import Simulcast.Proofs.Channel.Healthy
import Simulcast.Proofs.Process.Held

/-!
# Changes on the air

While a channel is on the air and every call is answered, its process carries exactly what the
channel wants there. Each operation that changes what is on the air makes the change at both ends.
-/

namespace Simulcast.Channel

open Simulated (Alike)

/-- The channel is on the air with this process, which carries what the channel wants. -/
structure OnAir (i : ProcessInfo) (ch : Channel) (c : Connection Simulated) : Prop where
  active : ch.status = .active
  refers : ch.processReference = some i.reference
  running : i.state = ProcessInfo.runningState
  linked : ch.Linked
  held : Held i c
  agreed : ∀ x, c.remote.Carries i.id x ↔ ch.Airs x

variable {i : ProcessInfo} {ch ch' : Channel} {c c' : Connection Simulated}

theorem OnAir.change (h : OnAir i ch c) (hs : ch'.skeleton = ch.skeleton) (hheld : Held i c')
    (hagreed : ∀ x, c'.remote.Carries i.id x ↔ ch'.Airs x) : OnAir i ch' c' where
  active := (congrArg Standing.status (standing_eq hs)).trans h.active
  refers := (congrArg Standing.processReference (standing_eq hs)).trans h.refers
  running := h.running
  linked := h.linked.of_wiring (wiring_eq hs)
  held := hheld
  agreed := hagreed

theorem OnAir.same (h : OnAir i ch c) (hs : ch'.skeleton = ch.skeleton)
    (hfaces : ch'.faces = ch.faces) : OnAir i ch' c :=
  h.change hs h.held fun x => (h.agreed x).trans (airs_congr hfaces x).symm

theorem findProcess_held (hr : ch.processReference = some i.reference) (h : Held i c) :
    ∃ c', ch.findProcess c = (.ok i, c') ∧ Held i c' ∧ Alike c.remote c'.remote := by
  obtain ⟨hfound, hheld, halike⟩ := h.findProcess
  unfold findProcess
  simp only [hr]
  generalize c.findProcess i.reference = found at hfound hheld halike ⊢
  obtain ⟨result, c'⟩ := found
  obtain rfl : result = .ok (some i) := hfound
  exact ⟨c', rfl, hheld, halike⟩

theorem OnAir.findProcess (h : OnAir i ch c) :
    ∃ c', ch.findProcess c = (.ok i, c') ∧ OnAir i ch c' := by
  obtain ⟨c', hfound, hheld, halike⟩ := findProcess_held h.refers h.held
  exact ⟨c', hfound, h.change rfl hheld fun x => (halike.carries i.id x).trans (h.agreed x)⟩

/-! ### One output after the other -/

theorem startOutput_onAir (h : OnAir i ch c) (index : Nat) :
    OnAir i (startOutput i.id index ch c).2.1 (startOutput i.id index ch c).2.2 := by
  unfold startOutput
  cases ho : ch.outputs[index]? with
  | none => exact h
  | some output =>
    simp only
    split_ifs
    · exact h
    · exact h
    · obtain ⟨hheld, hresult, hcarries⟩ := h.held.addOutput (ch.pushed index output)
      generalize c.perform (.addOutput i.id (ch.pushed index output)) = added
        at hheld hresult hcarries ⊢
      obtain ⟨result, c'⟩ := added
      have hstarted : OnAir i
          (ch.changeOutput index fun o => { o with enabled := true }.markConnected) c' := by
        refine h.change (ch.skeleton_changeOutput index _ fun o _ => rfl) hheld fun x => ?_
        rw [airs_enabled ho rfl rfl, ← h.agreed]
        exact hcarries x
      rcases hresult with rfl | ⟨⟨error, rfl, hconflict⟩, _⟩
      · exact hstarted
      · simp only [hconflict, if_true]
        exact hstarted

theorem stopOutput_onAir (h : OnAir i ch c) (index : Nat) :
    OnAir i (stopOutput i.id index ch c).2.1 (stopOutput i.id index ch c).2.2 := by
  unfold stopOutput
  cases ho : ch.outputs[index]? with
  | none => exact h
  | some output =>
    simp only
    split_ifs
    · obtain ⟨hheld, hresult, hcarries⟩ := h.held.removeOutput (remoteId output.platform index)
      generalize c.perform (.removeOutput i.id (remoteId output.platform index)) = removed
        at hheld hresult hcarries ⊢
      obtain ⟨result, c'⟩ := removed
      have hstopped : OnAir i
          (ch.changeOutput index ({ · with enabled := false, connected := false })) c' := by
        refine h.change (ch.skeleton_changeOutput index _ fun o _ => rfl) hheld fun x => ?_
        rw [airs_disabled ho rfl rfl, ← h.agreed]
        exact hcarries x
      rcases hresult with rfl | ⟨error, rfl, hmissing⟩
      · exact hstopped
      · simp only [hmissing, if_true]
        exact hstopped
    · exact h

theorem bulkLive_onAir (operation : String)
    {step : String → Nat → Channel → Connection Simulated → Bool × Channel × Connection Simulated}
    (hstep : ∀ index ch c, OnAir i ch c →
      OnAir i (step i.id index ch c).2.1 (step i.id index ch c).2.2)
    (h : OnAir i ch c) (indices : List Nat) :
    OnAir i (bulkLive operation step ch indices c).channel
      (bulkLive operation step ch indices c).connection := by
  obtain ⟨c', hfound, h'⟩ := h.findProcess
  unfold bulkLive
  rw [if_neg (not_not.mpr h.active), hfound]
  exact tally_induction (step i.id) hstep indices ch c' h'

theorem replaceRemote_add_held (h : Held i c) {o : ProcessOutput}
    (hgone : ¬ c.remote.Carries i.id o.id) :
    (replaceRemote.add i.id o c).1 = .ok () ∧ Held i (replaceRemote.add i.id o c).2 ∧
      ∀ x, (replaceRemote.add i.id o c).2.remote.Carries i.id x ↔
        x = o.id ∨ c.remote.Carries i.id x := by
  obtain ⟨hheld, hresult, hcarries⟩ := h.addOutput o
  unfold replaceRemote.add
  generalize c.perform (.addOutput i.id o) = added at hheld hresult hcarries ⊢
  obtain ⟨result, c'⟩ := added
  obtain rfl : result = .ok () := hresult.resolve_right fun hthere => hgone hthere.2
  exact ⟨rfl, hheld, hcarries⟩

theorem replaceRemote_held (hr : ch.processReference = some i.reference) (h : Held i c)
    {index : Nat} {o : Output} (ho : ch.outputs[index]? = some o) :
    (ch.replaceRemote index c).1 = .ok () ∧ Held i (ch.replaceRemote index c).2 ∧
      ∀ x, (ch.replaceRemote index c).2.remote.Carries i.id x ↔
        x = remoteId o.platform index ∨ c.remote.Carries i.id x := by
  obtain ⟨c₁, hfound, h₁, halike⟩ := findProcess_held hr h
  have hpushed : ch.processOutput? index = some (ch.pushed index o) := by
    simp [processOutput?, ho]
  obtain ⟨h₂, hresult, hcarries⟩ := h₁.removeOutput (ch.pushed index o).id
  unfold replaceRemote
  simp only [hfound, hpushed]
  generalize c₁.perform (.removeOutput i.id (ch.pushed index o).id) = removed
    at h₂ hresult hcarries ⊢
  obtain ⟨result, c₂⟩ := removed
  have hreadded : (replaceRemote.add i.id (ch.pushed index o) c₂).1 = .ok () ∧
      Held i (replaceRemote.add i.id (ch.pushed index o) c₂).2 ∧
      ∀ x, (replaceRemote.add i.id (ch.pushed index o) c₂).2.remote.Carries i.id x ↔
        x = remoteId o.platform index ∨ c.remote.Carries i.id x := by
    obtain ⟨hok, h₃, hadded⟩ := replaceRemote_add_held h₂ (o := ch.pushed index o)
      fun hthere => ((hcarries _).mp hthere).1 rfl
    refine ⟨hok, h₃, fun x => ?_⟩
    rw [hadded, hcarries, halike.carries]
    by_cases hx : x = remoteId o.platform index
    · exact iff_of_true (.inl hx) (.inl hx)
    · exact or_congr_right (and_iff_right hx)
  rcases hresult with rfl | ⟨error, rfl, hmissing⟩
  · exact hreadded
  · simp only [hmissing, if_true]
    exact hreadded

theorem setEncodingLive_onAir (h : OnAir i ch c) (index : Nat) (encoding : Encoding) :
    OnAir i (ch.setEncodingLive index encoding c).channel
      (ch.setEncodingLive index encoding c).connection := by
  unfold setEncodingLive
  cases ho : ch.outputs[index]? with
  | none => exact h
  | some o =>
    have hchanged : OnAir i (ch.changeOutput index ({ · with encoding })) c :=
      h.same (ch.skeleton_changeOutput index _ fun o _ => rfl) (faces_changeOutput fun o _ => rfl)
    simp only
    rw [if_neg (not_not.mpr h.active)]
    split_ifs with henabled
    · obtain ⟨hok, hheld, hcarries⟩ := replaceRemote_held hchanged.refers hchanged.held
        (getElem?_changeOutput_eq ho _)
      generalize replaceRemote _ index c = replaced at hok hheld hcarries ⊢
      obtain ⟨result, c'⟩ := replaced
      obtain rfl : result = .ok () := hok
      have hreplaced : OnAir i (ch.changeOutput index ({ · with encoding })) c' := by
        refine hchanged.change rfl hheld fun x => (hcarries x).trans ?_
        rw [hchanged.agreed]
        refine or_iff_right_of_imp ?_
        rintro rfl
        exact ⟨index, _, getElem?_changeOutput_eq ho _, henabled, rfl⟩
      exact hreplaced.same (skeleton_changeOutput _ index _ fun o _ => rfl)
        (faces_changeOutput fun o _ => rfl)
    · exact hchanged

/-! ### Failover -/

theorem swapIfActive_held (h : OnAir i ch c) {outgoing incoming : Nat} {o b : Output}
    (ho : ch.outputs[outgoing]? = some o) (hb : ch.outputs[incoming]? = some b) :
    (ch.swapIfActive outgoing incoming c).1 = .ok () ∧
      Held i (ch.swapIfActive outgoing incoming c).2 ∧
      ∀ x, (ch.swapIfActive outgoing incoming c).2.remote.Carries i.id x ↔
        x ≠ remoteId o.platform outgoing ∧
          (x = remoteId b.platform incoming ∨ ch.Airs x) := by
  obtain ⟨c₁, hfound, h₁⟩ := h.findProcess
  have hadded : ch.processOutput? incoming = some (ch.pushed incoming b) := by
    simp [processOutput?, hb]
  have hremoved : ch.remoteOutputId? outgoing = some (remoteId o.platform outgoing) := by
    simp [remoteOutputId?, ho]
  obtain ⟨h₂, hresult, hcarries₂⟩ := h₁.held.addOutput (ch.pushed incoming b)
  unfold swapIfActive swapRemote
  simp only [if_pos h.active, hfound, hadded, hremoved]
  generalize c₁.perform (.addOutput i.id (ch.pushed incoming b)) = added
    at h₂ hresult hcarries₂ ⊢
  obtain ⟨result, c₂⟩ := added
  obtain ⟨h₃, _, hcarries₃⟩ := h₂.removeOutput (remoteId o.platform outgoing)
  have hswapped : ∀ x, (c₂.perform (.removeOutput i.id
      (remoteId o.platform outgoing))).connection.remote.Carries i.id x ↔
        x ≠ remoteId o.platform outgoing ∧
          (x = remoteId b.platform incoming ∨ ch.Airs x) := fun x => by
    rw [hcarries₃, hcarries₂, h₁.agreed]
    rfl
  rcases hresult with rfl | ⟨⟨error, rfl, hconflict⟩, _⟩
  · exact ⟨rfl, h₃, hswapped⟩
  · simp only [hconflict, if_true]
    exact ⟨trivial, h₃, hswapped⟩

theorem triggerFailover_onAir (h : OnAir i ch c) (primary : Nat) :
    OnAir i (ch.triggerFailover primary c).channel (ch.triggerFailover primary c).connection := by
  unfold triggerFailover
  cases ho : ch.outputs[primary]? with
  | none => exact h
  | some o =>
    cases hindex : ch.backupIndex? primary with
    | none => exact h
    | some backup =>
      obtain ⟨hne, b, hb, _⟩ := h.linked.backupIndex?_spec ho hindex
      simp only
      split_ifs
      · exact h
      · obtain ⟨hok, hheld, hcarries⟩ := swapIfActive_held h ho hb
        generalize ch.swapIfActive primary backup c = swapped at hok hheld hcarries ⊢
        obtain ⟨result, c'⟩ := swapped
        obtain rfl : result = .ok () := hok
        refine h.change (ch.skeleton_changeBoth primary backup (fun _ => rfl) fun _ => rfl) hheld
          fun x => (hcarries x).trans ?_
        have hb' := (getElem?_changeOutput_ne ch (handedOver c'.now.unix) hne).trans hb
        have hids : remoteId b.platform backup ≠ remoteId o.platform primary :=
          fun he => hne (remoteId_injective he).2
        rw [airs_enabled hb' rfl rfl, airs_disabled ho rfl rfl]
        by_cases hx : x = remoteId b.platform backup
        · exact iff_of_true ⟨hx ▸ hids, .inl hx⟩ (.inl hx)
        · simp [hx]

theorem restorePrimary_onAir (h : OnAir i ch c) (primary : Nat) :
    OnAir i (ch.restorePrimary primary c).channel (ch.restorePrimary primary c).connection := by
  unfold restorePrimary
  cases ho : ch.outputs[primary]? with
  | none => exact h
  | some o =>
    cases hindex : ch.backupIndex? primary with
    | none => exact h
    | some backup =>
      obtain ⟨hne, b, hb, _⟩ := h.linked.backupIndex?_spec ho hindex
      simp only
      split_ifs
      · obtain ⟨hok, hheld, hcarries⟩ := swapIfActive_held h hb ho
        generalize ch.swapIfActive backup primary c = swapped at hok hheld hcarries ⊢
        obtain ⟨result, c'⟩ := swapped
        obtain rfl : result = .ok () := hok
        refine h.change (ch.skeleton_changeBoth primary backup (fun _ => rfl) fun _ => rfl) hheld
          fun x => (hcarries x).trans ?_
        have hb' := (getElem?_changeOutput_ne ch (tookBack ch.isActive) hne).trans hb
        rw [airs_disabled hb' rfl rfl, airs_enabled ho rfl rfl]
      · exact h

theorem failoverEach_onAir (h : OnAir i ch c) (indices : List Nat) :
    OnAir i (failoverEach indices ch c).2.1 (failoverEach indices ch c).2.2 := by
  induction indices generalizing ch c with
  | nil => exact h
  | cons index rest ih => exact ih (triggerFailover_onAir h index)

theorem seenAt_face (checkedAt : Nat) (o : Output) : (seenAt checkedAt o).face = o.face := by
  unfold seenAt
  split_ifs <;> rfl

theorem checkHealth_onAir (h : OnAir i ch c) :
    OnAir i (ch.checkHealth c).2.1 (ch.checkHealth c).2.2 := by
  have hrefers : ch.RefersTo i.reference := fun r hr => Option.some.inj (hr.symm.trans h.refers)
  have hskeleton := (checkHealth_tended (tending_true i.reference) hrefers c).1
  unfold checkHealth at hskeleton ⊢
  split_ifs at hskeleton ⊢
  · obtain ⟨p, hp, hinfo, hf, _⟩ := h.held.find?
    subst hinfo
    obtain ⟨hfound, h₁, halike⟩ := h.held.findProcess
    have hcarried : ∀ x, ch.Airs x → x ∈ p.outputIds := fun x hx =>
      (Simulated.Carries.of_find? hf x).mp ((h.agreed x).mpr hx)
    have hfind : (c.findProcess p.info.reference).result.isOk = true := by rw [hfound]; rfl
    have hpass := healthPass_present h.held.apart hp h.refers h.running hcarried hfind
      h₁.getOutputs c.now
    have hlisted := (c.findProcess p.info.reference).connection.getOutputs_served p.info.id
    have hanswering := (Connection.perform_answered h₁.answering (.getOutputs p.info.id)).1
    rw [hpass] at hskeleton ⊢
    refine h.change hskeleton (h₁.of_alike hanswering hlisted) fun x => ?_
    rw [hlisted.carries, halike.carries, h.agreed]
    exact (airs_congr (faces_changeEach (seenAt_face c.now.unix)
      { ch with lastCheck := some c.now } _) x).symm
  · exact h

end Simulcast.Channel
