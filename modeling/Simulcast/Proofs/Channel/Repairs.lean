import Simulcast.Proofs.Channel.Monitoring
import Simulcast.Proofs.Channel.Outputs
import Simulcast.Proofs.Remote.Carried

/-!
# Repairs within a health pass

A pass judges from the outputs that the process had when the pass began, and repairs some of them on
the way. Repairing one output takes no other off the process, so at the end every output that the
channel holds to be connected is there.
-/

namespace Simulcast.Channel

open Simulated (Alike Apart)

variable {ch : Channel} {c : Connection Simulated} {reference id : String}

/-- What is done about the output at one position leaves the others alone, in the channel as well as
at the process. -/
structure Beside (index : Nat) (id : String) (ch ch' : Channel) (s t : Simulated) : Prop where
  outputs : ∀ i, i ≠ index → ch'.outputs[i]? = ch.outputs[i]?
  carried : ∀ i, i ≠ index → ∀ platform, s.Carries id (remoteId platform i) →
    t.Carries id (remoteId platform i)

/-- The output at this position is on the process if the channel expects it there and holds it to be
connected. -/
def TrueAt (id : String) (ch : Channel) (s : Simulated) (index : Nat) : Prop :=
  ∀ o, ch.outputs[index]? = some o → o.enabled → o.connected →
    s.Carries id (remoteId o.platform index)

namespace Beside

variable {index : Nat} {ch₁ ch₂ : Channel} {s t u : Simulated}

theorem of_alike (hch : ∀ i, i ≠ index → ch₁.outputs[i]? = ch.outputs[i]?) (hs : Alike s t) :
    Beside index id ch ch₁ s t :=
  ⟨hch, fun i _ platform => (hs.carries id (remoteId platform i)).mpr⟩

theorem trans (h : Beside index id ch ch₁ s t) (h' : Beside index id ch₁ ch₂ t u) :
    Beside index id ch ch₂ s u where
  outputs := fun i hi => (h'.outputs i hi).trans (h.outputs i hi)
  carried := fun i hi platform hx => h'.carried i hi platform (h.carried i hi platform hx)

theorem trueAt (h : Beside index id ch ch₁ s t) {i : Nat} (hi : i ≠ index)
    (ht : TrueAt id ch s i) : TrueAt id ch₁ t i := by
  intro o ho henabled hconnected
  rw [h.outputs i hi] at ho
  exact h.carried i hi o.platform (ht o ho henabled hconnected)

end Beside

theorem trueAt_of_not_connected {o : Output} {index : Nat} {s : Simulated}
    (ho : ch.outputs[index]? = some o) (h : o.enabled → o.connected = false) :
    TrueAt id ch s index := by
  intro o' ho' henabled hconnected
  obtain rfl : o = o' := Option.some.inj (ho.symm.trans ho')
  cases (h henabled).symm.trans hconnected

theorem reissue_carried (h : ch.Attached reference id c.remote) (o : ProcessOutput) :
    let removed := (c.perform (.removeOutput id o.id)).connection
    let added := removed.perform (.addOutput id o)
    (∀ x, x ≠ o.id → c.remote.Carries id x → added.connection.remote.Carries id x) ∧
      (added.result = .ok () → added.connection.remote.Carries id o.id) := by
  intro removed added
  have htended := (tending_simulated reference).remove (c := c) o.id h.stands
  obtain ⟨p, hp, _⟩ := h.find?
  obtain ⟨q, hq, _⟩ := (h.tended rfl htended).find?
  obtain ⟨hkept, hnew⟩ := removed.addOutput_carried hq o
  exact ⟨fun x hne hx => hkept x (c.removeOutput_carried hp hne hx), hnew⟩

/-- Reconnecting an output that is not connected leaves the others alone, and it counts as connected
afterwards only if the process has it. -/
theorem reconnectOutput_beside (h : ch.Attached reference id c.remote) {index : Nat} {o : Output}
    (ho : ch.outputs[index]? = some o) (hmissing : o.connected = false) :
    Beside index id ch (ch.reconnectOutput index c).channel c.remote
        (ch.reconnectOutput index c).connection.remote ∧
      TrueAt id (ch.reconnectOutput index c).channel
        (ch.reconnectOutput index c).connection.remote index := by
  have same {d : Connection Simulated} (hd : Alike c.remote d.remote) (error : ChannelError) :
      Beside index id ch (ch.recordError error) c.remote d.remote ∧
        TrueAt id (ch.recordError error) d.remote index :=
    ⟨.of_alike (fun _ _ => rfl) hd, trueAt_of_not_connected ho fun _ => hmissing⟩
  have hne {i : Nat} (hi : i ≠ index) (platform : Platform) :
      remoteId platform i ≠ remoteId o.platform index := fun he => hi (remoteId_injective he).2
  unfold reconnectOutput
  simp only [ho]
  split_ifs
  · exact ⟨.of_alike (fun _ _ => rfl) (.refl _), trueAt_of_not_connected ho fun _ => hmissing⟩
  · refine ⟨.of_alike (fun i hi => ch.getElem?_changeOutput_ne _ hi) (.refl _), ?_⟩
    exact trueAt_of_not_connected (getElem?_changeOutput_eq ho _) fun _ => rfl
  · have hfound := ch.findProcess_alike (c.sleep ch.reconnect.delay)
    cases hf : ch.findProcess (c.sleep ch.reconnect.delay) with
    | mk found c₁ =>
      rw [hf] at hfound
      cases found with
      | error error => exact same hfound error
      | ok process =>
        simp only
        split_ifs
        · obtain rfl := h.id_eq (c := c.sleep ch.reconnect.delay) hf
          have h₁ : ch.Attached reference process.id c₁.remote := h.tended rfl (.of_alike hfound)
          obtain ⟨hkept, hnew⟩ := reissue_carried h₁ (ch.pushed index o)
          generalize (c₁.perform (.removeOutput process.id _)).connection = c₂ at hkept hnew ⊢
          generalize c₂.perform (.addOutput process.id _) = added at hkept hnew ⊢
          obtain ⟨error | _, c₃⟩ := added
          · refine ⟨⟨fun _ _ => rfl, fun i hi platform hx => hkept _ (hne hi platform) ?_⟩, ?_⟩
            · exact (hfound.carries _ _).mpr hx
            · exact trueAt_of_not_connected ho fun _ => hmissing
          · refine ⟨⟨fun i hi => ch.getElem?_changeOutput_ne _ hi, fun i hi platform hx =>
              hkept _ (hne hi platform) ((hfound.carries _ _).mpr hx)⟩, ?_⟩
            intro o' ho' _ _
            obtain rfl := Option.some.inj ((getElem?_changeOutput_eq ho _).symm.trans ho')
            exact hnew rfl
        · exact same hfound _

/-- Looking at one output leaves the others alone, and what comes of it is true as long as the
output is on the process if the pass saw it there. -/
theorem inspectOutput_beside (h : ch.Attached reference id c.remote) {present : List String}
    (checkedAt : Nat) {index : Nat}
    (hpresent : ∀ platform, remoteId platform index ∈ present →
      c.remote.Carries id (remoteId platform index)) :
    Beside index id ch (inspectOutput present checkedAt index ch c).1 c.remote
        (inspectOutput present checkedAt index ch c).2.remote ∧
      TrueAt id (inspectOutput present checkedAt index ch c).1
        (inspectOutput present checkedAt index ch c).2.remote index := by
  unfold inspectOutput
  cases ho : ch.outputs[index]? with
  | none =>
    refine ⟨.of_alike (fun _ _ => rfl) (.refl _), fun o ho' => ?_⟩
    cases ho.symm.trans ho'
  | some o =>
    have changed (f : Output → Output) :
        Beside index id ch (ch.changeOutput index f) c.remote c.remote :=
      .of_alike (fun i hi => ch.getElem?_changeOutput_ne f hi) (.refl _)
    simp only
    split_ifs with henabled hmem hdue
    · refine ⟨changed _, fun o' ho' _ _ => ?_⟩
      obtain rfl := Option.some.inj ((getElem?_changeOutput_eq ho _).symm.trans ho')
      exact hpresent o.platform hmem
    · have hskeleton := ch.skeleton_changeOutput index
        (fun _ => { o with lastCheck := some checkedAt }.markMissing) fun o' ho' => by
          obtain rfl : o = o' := Option.some.inj (ho.symm.trans ho')
          rfl
      obtain ⟨hbeside, htrue⟩ := reconnectOutput_beside (h.tended hskeleton (.of_alike (.refl _)))
        (getElem?_changeOutput_eq ho _) rfl
      exact ⟨(changed _).trans hbeside, htrue⟩
    · exact ⟨changed _, trueAt_of_not_connected (getElem?_changeOutput_eq ho _) fun _ => rfl⟩
    · exact ⟨.of_alike (fun _ _ => rfl) (.refl _),
        trueAt_of_not_connected ho fun he => absurd he henabled⟩

/-- After a pass over these positions, which saw nothing that was not there, whatever was true of
the other positions still is, and it is true of these. -/
theorem inspectEach_true (h : ch.Attached reference id c.remote) {present : List String}
    (checkedAt : Nat) {indices : List Nat} (hnodup : indices.Nodup)
    (hpresent : ∀ i ∈ indices, ∀ platform, remoteId platform i ∈ present →
      c.remote.Carries id (remoteId platform i))
    (hdone : ∀ i, i ∉ indices → TrueAt id ch c.remote i) (i : Nat) :
    TrueAt id (inspectEach present checkedAt indices ch c).1
      (inspectEach present checkedAt indices ch c).2.remote i := by
  -- Positions move from those the pass is still to see to those it has dealt with.
  induction indices generalizing ch c with
  | nil => exact hdone i List.not_mem_nil
  | cons index rest ih =>
    obtain ⟨hnotin, hnodup⟩ := List.nodup_cons.mp hnodup
    obtain ⟨hbeside, htrue⟩ :=
      inspectOutput_beside h checkedAt (hpresent index List.mem_cons_self)
    obtain ⟨hskeleton, htended⟩ := inspectOutput_tended (tending_simulated reference) h.refersTo
      present checkedAt index c
    refine ih (h.tended hskeleton htended) hnodup (fun j hj platform hx => ?_) fun j hj => ?_
    · have hne : j ≠ index := fun he => hnotin (he ▸ hj)
      exact hbeside.carried j hne platform (hpresent j (List.mem_cons_of_mem _ hj) platform hx)
    · by_cases he : j = index
      · exact he ▸ htrue
      · exact hbeside.trueAt he (hdone j fun hmem => (List.mem_cons.mp hmem).elim he hj)

end Simulcast.Channel
