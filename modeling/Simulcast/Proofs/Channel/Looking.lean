import Simulcast.Proofs.Channel.Conversation
import Simulcast.Proofs.Channel.Outputs

/-!
# A look at one output

A look leaves an output that is disabled, finds one that is enabled, or misses it. One that is
missed often enough is reconnected on the spot, or given up when its reconnects are used up. All the
other outputs, and what the looks go by, stay as they are.
-/

namespace Simulcast

namespace Output

def foundAt (checkedAt : Nat) (o : Output) : Output :=
  { o with lastCheck := some checkedAt, connected := true, failures := 0 }

def missedAt (checkedAt : Nat) (o : Output) : Output :=
  { o with lastCheck := some checkedAt, connected := false, failures := countUp o.failures }

/-- A missing output is to be reconnected. -/
def Due (threshold : Nat) (o : Output) : Prop :=
  o.autoReconnect = true ∧ threshold ≤ o.failures

/-- The reconnects of an output are used up; zero stands for no limit. -/
def Spent (attempts : Nat) (o : Output) : Prop := 0 < attempts ∧ attempts ≤ o.failures

end Output

namespace Channel

variable {ch ch₁ ch₂ : Channel} {index : Nat} {o : Output} {present : List String}
  {checkedAt : Nat}

/-! ### What stays -/

/-- What a look goes by, and does not change: all but the outputs and the last error. -/
def terms (ch : Channel) : Channel := { ch with outputs := [], lastError := none }

/-- Only the outputs at some positions differ, and possibly the last error. -/
structure Within (indices : List Nat) (ch ch' : Channel) : Prop where
  others : ∀ i, i ∉ indices → ch'.outputs[i]? = ch.outputs[i]?
  length : ch'.outputs.length = ch.outputs.length
  terms : ch'.terms = ch.terms

namespace Within

variable {indices : List Nat}

theorem status (h : Within indices ch ch₁) : ch₁.status = ch.status :=
  (congrArg Channel.status h.terms :)

theorem processReference (h : Within indices ch ch₁) :
    ch₁.processReference = ch.processReference := (congrArg Channel.processReference h.terms :)

theorem health (h : Within indices ch ch₁) : ch₁.health = ch.health :=
  (congrArg Channel.health h.terms :)

theorem reconnect (h : Within indices ch ch₁) :
    ch₁.reconnect = ch.reconnect := (congrArg Channel.reconnect h.terms :)

theorem refl (indices : List Nat) (ch : Channel) : Within indices ch ch :=
  ⟨fun _ _ => rfl, rfl, rfl⟩

theorem mono {more : List Nat} (h : Within indices ch ch₁) (hsub : indices ⊆ more) :
    Within more ch ch₁ := ⟨fun i hi => h.others i fun hm => hi (hsub hm), h.length, h.terms⟩

theorem trans (h : Within indices ch ch₁) (h' : Within indices ch₁ ch₂) :
    Within indices ch ch₂ where
  others := fun i hi => (h'.others i hi).trans (h.others i hi)
  length := h'.length.trans h.length
  terms := h'.terms.trans h.terms

theorem changeOutput (ch : Channel) (index : Nat) (f : Output → Output) :
    Within [index] ch (ch.changeOutput index f) where
  others := fun _ hi => ch.getElem?_changeOutput_ne f fun he => hi (List.mem_singleton.mpr he)
  length := List.length_modify _ _ _
  terms := rfl

theorem recordError (h : Within indices ch ch₁) (error : ChannelError) :
    Within indices ch (ch₁.recordError error) := ⟨h.others, h.length, h.terms⟩

end Within

section

variable {σ : Type} [Service σ] (c : Connection σ)

theorem reconnectOutput_within (ch : Channel) (index : Nat) :
    Within [index] ch (ch.reconnectOutput index c).channel := by
  unfold reconnectOutput
  cases ch.outputs[index]? with
  | none => exact .refl _ ch
  | some output =>
    simp only
    split_ifs
    · exact .refl _ ch
    · exact (Within.changeOutput ch index _).recordError _
    · generalize ch.findProcess (c.sleep ch.reconnect.delay) = found
      obtain ⟨error | process, c₁⟩ := found
      · exact (Within.refl _ ch).recordError _
      · simp only
        split_ifs
        · generalize (c₁.perform (.removeOutput process.id _)).connection = c₂
          generalize c₂.perform (.addOutput process.id _) = added
          obtain ⟨error | _, c₃⟩ := added
          · exact (Within.refl _ ch).recordError _
          · exact .changeOutput ch index _
        · exact (Within.refl _ ch).recordError _

theorem inspectOutput_within (present : List String) (checkedAt index : Nat) (ch : Channel) :
    Within [index] ch (inspectOutput present checkedAt index ch c).1 := by
  unfold inspectOutput
  cases ch.outputs[index]? with
  | none => exact .refl _ ch
  | some output =>
    simp only
    split_ifs
    · exact .changeOutput ch index _
    · exact (Within.changeOutput ch index _).trans (reconnectOutput_within c _ index)
    · exact .changeOutput ch index _
    · exact .refl _ ch

end

/-! ### What is asked -/

section

variable {σ : Type} [Service σ] {c : Connection σ} {x : String}

theorem adds_findTalk (ch : Channel) (x : String) (c : Connection σ) :
    ch.findTalk.adds x c = 0 := by
  cases href : ch.processReference with
  | none =>
    rw [findTalk, href]
    rfl
  | some reference =>
    rw [Talk.adds, exchanges_findTalk href]
    rfl

theorem adds_reissueTalk (ch : Channel) (index : Nat) (o : Output) (id x : String)
    (c : Connection σ) :
    (ch.reissueTalk index o id).adds x c = if remoteId o.platform index = x then 1 else 0 := by
  rw [reissueTalk, Talk.adds_ask, Talk.adds_ask]
  generalize (c.perform (.removeOutput id (ch.pushed index o).id)).connection = c₁
  generalize (c₁.perform (.addOutput id (ch.pushed index o))).result = added
  obtain error | _ := added <;> simp [Exchange.adds, pushed]

theorem adds_reconnectTalk (ch : Channel) (hx : ∀ platform, remoteId platform index ≠ x) :
    (ch.reconnectTalk index).adds x c = 0 := by
  unfold reconnectTalk
  cases ch.outputs[index]? with
  | none => rfl
  | some output =>
    simp only
    split_ifs
    · rfl
    · rfl
    · rw [Talk.adds_wait, Talk.adds_bind, adds_findTalk]
      generalize ch.findTalk.run (c.sleep ch.reconnect.delay) = found
      obtain ⟨error | process, c₁⟩ := found
      · rfl
      · simp only
        split_ifs
        · rw [adds_reissueTalk, if_neg (hx _)]
        · rfl

theorem adds_inspectTalk (ch : Channel) (hx : ∀ platform, remoteId platform index ≠ x) :
    (inspectTalk present checkedAt index ch).adds x c = 0 := by
  unfold inspectTalk
  cases ch.outputs[index]? with
  | none => rfl
  | some output =>
    simp only
    split_ifs
    · rfl
    · rw [Talk.adds_bind, adds_reconnectTalk _ hx, Talk.adds_done]
    · rfl
    · rfl

end

/-! ### What a look comes to -/

theorem inspectTalk_disabled (ho : ch.outputs[index]? = some o) (he : o.enabled = false) :
    inspectTalk present checkedAt index ch = .done ch := by
  simp [inspectTalk, ho, he]

theorem inspectTalk_found (ho : ch.outputs[index]? = some o) (he : o.enabled = true)
    (hp : remoteId o.platform index ∈ present) :
    inspectTalk present checkedAt index ch =
      .done (ch.changeOutput index (Output.foundAt checkedAt)) := by
  simp only [inspectTalk, ho, if_pos he, if_pos hp]
  rfl

theorem inspectTalk_missed (ho : ch.outputs[index]? = some o) (he : o.enabled = true)
    (hp : remoteId o.platform index ∉ present)
    (hd : ¬ (o.missedAt checkedAt).Due ch.health.threshold) :
    inspectTalk present checkedAt index ch =
      .done (ch.changeOutput index fun _ => o.missedAt checkedAt) := by
  simp only [inspectTalk, ho, if_pos he, if_neg hp]
  exact if_neg fun h => hd h.symm

theorem inspectTalk_due (ho : ch.outputs[index]? = some o) (he : o.enabled = true)
    (hp : remoteId o.platform index ∉ present)
    (hd : (o.missedAt checkedAt).Due ch.health.threshold) :
    inspectTalk present checkedAt index ch =
      ((ch.changeOutput index fun _ => o.missedAt checkedAt).reconnectTalk index).bind
        fun answer => .done answer.2 := by
  simp only [inspectTalk, ho, if_pos he, if_neg hp]
  exact if_pos hd.symm

theorem reconnectTalk_spent (ha : ch.status = .active) (ho : ch.outputs[index]? = some o)
    (hs : o.Spent ch.reconnect.maxAttempts) :
    ch.reconnectTalk index =
      .done (.error (.reconnectExhausted index o.failures),
        (ch.changeOutput index ({ · with enabled := false, connected := false })).recordError
          (.reconnectExhausted index o.failures)) := by
  simp only [reconnectTalk, ho, ha]
  exact if_pos hs

theorem reconnectTalk_unspent (ha : ch.status = .active) (ho : ch.outputs[index]? = some o)
    (hs : ¬ o.Spent ch.reconnect.maxAttempts) :
    ch.reconnectTalk index =
      .wait ch.reconnect.delay (ch.findTalk.bind fun
        | .error error => .done (.ok false, ch.recordError error)
        | .ok process =>
          if process.isRunning then ch.reissueTalk index o process.id
          else .done (.ok false, ch.recordError (.processNotRunning process.state))) := by
  simp only [reconnectTalk, ho, ha]
  exact if_neg hs

variable {σ : Type} [Service σ] (c : Connection σ)

/-- A reconnect that is still tried says whether the output is back, asks at most once to add it,
and counts it as connected only then. -/
theorem reconnectTalk_tried (ha : ch.status = .active) (ho : ch.outputs[index]? = some o)
    (hs : ¬ o.Spent ch.reconnect.maxAttempts) :
    let tried := (ch.reconnectTalk index).run c
    let added := (ch.reconnectTalk index).adds (remoteId o.platform index) c
    (tried.1.1 = .ok true ∧ tried.1.2.outputs[index]? = some o.markConnected ∧ added = 1) ∨
      (tried.1.1 = .ok false ∧ tried.1.2.outputs[index]? = some o ∧ added ≤ 1) := by
  rw [reconnectTalk_unspent ha ho hs]
  simp only [Talk.run, Talk.run_bind, Talk.adds_wait, Talk.adds_bind, adds_findTalk, Nat.zero_add]
  generalize ch.findTalk.run (c.sleep ch.reconnect.delay) = found
  obtain ⟨error | process, c₁⟩ := found
  · exact .inr ⟨rfl, ho, Nat.zero_le _⟩
  · simp only
    split_ifs
    · rw [adds_reissueTalk, if_pos rfl]
      simp only [reissueTalk, Talk.run]
      generalize (c₁.perform (.removeOutput process.id _)).connection = c₂
      generalize c₂.perform (.addOutput process.id _) = answered
      obtain ⟨error | _, c₃⟩ := answered
      · exact .inr ⟨rfl, ho, Nat.le_refl _⟩
      · exact .inl ⟨rfl, getElem?_changeOutput_eq ho _, trivial⟩
    · exact .inr ⟨rfl, ho, Nat.zero_le _⟩

/-- What comes of the output `o` when a look leads from `before` to `after`: it is `o'` then, and
the service was asked `added` times to add it. -/
structure Counted (threshold attempts : Nat) (present : List String) (checkedAt index : Nat)
    (before after : Channel × Connection σ) (o o' : Output) (added : Nat) : Prop where
  disabled : o.enabled = false → o' = o ∧ added = 0 ∧ after.2 = before.2
  found : o.enabled = true → remoteId o.platform index ∈ present →
    o' = o.foundAt checkedAt ∧ added = 0 ∧ after.2 = before.2
  missed : o.enabled = true → remoteId o.platform index ∉ present →
    ¬ (o.missedAt checkedAt).Due threshold →
    o' = o.missedAt checkedAt ∧ added = 0 ∧ after.2 = before.2
  exhausted : o.enabled = true → remoteId o.platform index ∉ present →
    (o.missedAt checkedAt).Due threshold → (o.missedAt checkedAt).Spent attempts →
    o' = { o.missedAt checkedAt with enabled := false } ∧ added = 0 ∧ after.2 = before.2
  tried : o.enabled = true → remoteId o.platform index ∉ present →
    (o.missedAt checkedAt).Due threshold → ¬ (o.missedAt checkedAt).Spent attempts →
    let noted := before.1.changeOutput index fun _ => o.missedAt checkedAt
    let reconnect := noted.reconnectOutput index before.2
    after = (reconnect.channel, reconnect.connection) ∧
      (reconnect.result = .ok true ∧
          o' = { o.missedAt checkedAt with connected := true, failures := 0 } ∧ added = 1 ∨
        reconnect.result = .ok false ∧ o' = o.missedAt checkedAt ∧ added ≤ 1)

theorem inspectTalk_counted (present : List String) (checkedAt : Nat) (ha : ch.status = .active)
    (ho : ch.outputs[index]? = some o) :
    let look := inspectTalk present checkedAt index ch
    ∃ o', (look.run c).1.outputs[index]? = some o' ∧
      Counted ch.health.threshold ch.reconnect.maxAttempts present checkedAt index (ch, c)
        (look.run c) o o' (look.adds (remoteId o.platform index) c) := by
  intro look
  have hlength : (look.run c).1.outputs.length = ch.outputs.length := by
    rw [run_inspectTalk]
    exact (inspectOutput_within c present checkedAt index ch).length
  obtain ⟨hindex, _⟩ := List.getElem?_eq_some_iff.mp ho
  obtain ⟨o', ho'⟩ : ∃ o', (look.run c).1.outputs[index]? = some o' :=
    ⟨_, List.getElem?_eq_getElem (hlength ▸ hindex)⟩
  have settled {ch' : Channel} {o₁ : Output} (hlook : look = .done ch')
      (ho₁ : ch'.outputs[index]? = some o₁) :
      o' = o₁ ∧ look.adds (remoteId o.platform index) c = 0 ∧ (look.run c).2 = c := by
    rw [hlook] at ho' ⊢
    exact ⟨Option.some.inj (ho'.symm.trans ho₁), rfl, rfl⟩
  let noted := ch.changeOutput index fun _ => o.missedAt checkedAt
  have hactive : noted.status = .active := ha
  have hmissed : noted.outputs[index]? = some (o.missedAt checkedAt) :=
    getElem?_changeOutput_eq ho _
  refine ⟨o', ho', ?_, ?_, ?_, ?_, ?_⟩
  · exact fun he => settled (inspectTalk_disabled ho he) ho
  · exact fun he hp => settled (inspectTalk_found ho he hp) (getElem?_changeOutput_eq ho _)
  · exact fun he hp hd => settled (inspectTalk_missed ho he hp hd) hmissed
  · intro he hp hd hs
    have hgiven := reconnectTalk_spent hactive hmissed hs
    have hlook : look = .done _ :=
      (inspectTalk_due ho he hp hd).trans (congrArg (Talk.bind · _) hgiven)
    exact settled hlook (getElem?_changeOutput_eq hmissed _)
  · intro he hp hd hs _ reconnect
    have htried := reconnectTalk_tried c hactive hmissed hs
    have hlook : look = (noted.reconnectTalk index).bind fun answer => .done answer.2 :=
      inspectTalk_due ho he hp hd
    rw [hlook, Talk.run_bind, run_reconnectTalk] at ho'
    rw [hlook, Talk.run_bind, Talk.adds_bind, Talk.adds_done, Nat.add_zero, run_reconnectTalk]
    refine ⟨rfl, ?_⟩
    rw [run_reconnectTalk] at htried
    obtain ⟨hback, hout, hadds⟩ | ⟨hnot, hout, hadds⟩ := htried
    · exact .inl ⟨hback, Option.some.inj (ho'.symm.trans hout), hadds⟩
    · exact .inr ⟨hnot, Option.some.inj (ho'.symm.trans hout), hadds⟩

end Channel

end Simulcast
