import Simulcast.Proofs.Channel.Exhaustion

/-!
# Enabling an output that was given up

Enabling an output leaves its counter as it is. The next pass that misses the output counts once
more, so whether the output gets another attempt is settled by the counter it was disabled with. One
that was given up has the maximum behind it, and is given up again without an attempt.
-/

namespace Simulcast.Channel

variable {ch ch' : Channel} {i : Nat} {o : Output}

/-! ### Enabling -/

/-- The channel after the output at a position was enabled, alone or together with others. A backup
is not enabled together with others. -/
inductive Reenables (ch : Channel) (i : Nat) : Channel → Prop where
  | alone {ch' : Channel} (h : ch.setOutputEnabled i true = .ok ch') : Reenables ch i ch'
  | together {indices : List Nat} (hi : i ∈ indices)
      (hprimary : ∀ o, ch.outputs[i]? = some o → o.isBackup = false) :
      Reenables ch i (ch.bulkSetEnabled indices true).2

theorem terms_changeEach (f : Output → Output) (ch : Channel) (indices : List Nat) :
    (changeEach f ch indices).terms = ch.terms := by
  induction indices generalizing ch with
  | nil => rfl
  | cons index rest ih => exact ih (ch.changeOutput index f)

/-- Changing an output over and over comes to changing it once, if that settles it. -/
theorem changeEach_of_mem {f : Output → Output} {o₁ : Output} (hf : f o = o₁) (hsettled : f o₁ = o₁)
    {indices : List Nat} (hi : i ∈ indices) (ho : ch.outputs[i]? = some o) :
    (changeEach f ch indices).outputs[i]? = some o₁ := by
  have stays (indices : List Nat) {ch : Channel} (ho₁ : ch.outputs[i]? = some o₁) :
      (changeEach f ch indices).outputs[i]? = some o₁ := by
    induction indices generalizing ch with
    | nil => exact ho₁
    | cons index rest ih =>
      have hnext : (ch.changeOutput index f).outputs[i]? = some o₁ := by
        by_cases hindex : i = index
        · subst hindex
          rw [getElem?_changeOutput_eq ho₁, hsettled]
        · exact (getElem?_changeOutput_ne ch f hindex).trans ho₁
      exact ih hnext
  induction indices generalizing ch with
  | nil => cases hi
  | cons index rest ih =>
    by_cases hindex : i = index
    · subst hindex
      exact stays rest ((getElem?_changeOutput_eq ho f).trans (congrArg some hf))
    · exact ih ((List.mem_cons.mp hi).resolve_left hindex)
        ((getElem?_changeOutput_ne ch f hindex).trans ho)

theorem Reenables.output (h : ch.Reenables i ch') (ho : ch.outputs[i]? = some o) :
    ch'.terms = ch.terms ∧ ch'.outputs[i]? = some { o with enabled := true } := by
  cases h with
  | alone h =>
    unfold setOutputEnabled editOutput at h
    split_ifs at h
    obtain rfl := Except.ok.inj h
    exact ⟨rfl, getElem?_changeOutput_eq ho _⟩
  | together hi hprimary =>
    have hprimary := Bool.eq_false_iff.mp (hprimary o ho)
    refine ⟨terms_changeEach _ ch _, changeEach_of_mem ?_ ?_ hi ho⟩
    · exact if_neg fun h => hprimary h.2
    · exact if_neg fun h => hprimary h.2

/-! ### The passes that follow -/

variable {σ : Type} [Service σ] {reference : String} {start : Channel} {c : Connection σ} {n : Nat}

/-- What `n` passes that missed an output and did not ask to add it left of it. -/
structure Unasked (start : Channel) (i : Nat) (o : Output) (n : Nat) (ch : Channel) : Prop where
  status : ch.status = .active
  processReference : ch.processReference = start.processReference
  health : ch.health = start.health
  reconnect : ch.reconnect = start.reconnect
  output : ∃ o', ch.outputs[i]? = some o' ∧ o'.platform = o.platform ∧ o'.enabled = true ∧
    o'.autoReconnect = true ∧ o'.failures = o.failures + n
  early : n = 0 ∨ o.failures + n < start.health.threshold

section

variable (hm : start.health.enabled = true) (href : start.processReference = some reference)
  (hlimit : start.health.threshold < start.reconnect.maxAttempts)
  (hmax : start.reconnect.maxAttempts ≤ counterMax)
  (hleft : o.failures + 1 < start.reconnect.maxAttempts)

include hm href hlimit hmax hleft

/-- As long as an attempt is left, a pass that misses the output makes it or finds it too early. -/
theorem Unasked.pass (h : Unasked start i o n ch)
    (hw : ∀ e ∈ (ch.healthTalk c.now).exchanges c, e.misses reference (remoteId o.platform i)) :
    0 < (ch.healthTalk c.now).adds (remoteId o.platform i) c ∨
      Unasked start i o (n + 1) (ch.checkHealth c).2.1 := by
  obtain ⟨o', ho', hplatform, he, hauto, hfailures⟩ := h.output
  rw [← hplatform] at hw ⊢
  obtain ⟨hwithin, o'', ho'', hmissed⟩ :=
    checkHealth_missed h.status (h.health ▸ hm) (h.processReference.trans href) ho' hw
  rw [h.health, h.reconnect] at hmissed
  have hearly := h.early
  have hcount : countUp o'.failures = o.failures + (n + 1) := by
    rw [countUp]
    omega
  have hdue : (o'.missedAt c.now.unix).Due start.health.threshold ↔
      start.health.threshold ≤ o.failures + (n + 1) := by
    rw [← hcount]
    exact and_iff_right hauto
  by_cases hd : start.health.threshold ≤ o.failures + (n + 1)
  · have hunspent : ¬ (o'.missedAt c.now.unix).Spent start.reconnect.maxAttempts := fun hs => by
      have hspent : start.reconnect.maxAttempts ≤ countUp o'.failures := hs.2
      omega
    rw [hmissed.tried he (hdue.mpr hd) hunspent]
    exact .inl Nat.one_pos
  · obtain ⟨rfl, _⟩ := hmissed.early he (mt hdue.mp hd)
    exact .inr
      { status := hwithin.status.trans h.status
        processReference := hwithin.processReference.trans h.processReference
        health := hwithin.health.trans h.health
        reconnect := hwithin.reconnect.trans h.reconnect
        output := ⟨_, ho'', hplatform, he, hauto, hcount⟩
        early := .inr (Nat.not_le.mp hd) }

theorem unasked_afterPasses (ha : start.status = .active)
    (ho : start.outputs[i]? = some { o with enabled := true }) (hauto : o.autoReconnect = true)
    (conns : Nat → Connection σ)
    (hw : ∀ k < n, ∀ e ∈ (start.passesTalk conns k).exchanges (conns k),
      e.misses reference (remoteId o.platform i))
    (hnone : ∑ k ∈ Finset.range n,
      (start.passesTalk conns k).adds (remoteId o.platform i) (conns k) = 0) :
    Unasked start i o n (start.afterPasses conns n) := by
  induction n with
  | zero => exact ⟨ha, rfl, rfl, rfl, ⟨_, ho, rfl, rfl, hauto, rfl⟩, .inl rfl⟩
  | succ n ih =>
    rw [Finset.sum_range_succ, Nat.add_eq_zero_iff] at hnone
    have hbefore := ih (fun k hk => hw k (Nat.lt_succ_of_lt hk)) hnone.1
    refine (hbefore.pass hm href hlimit hmax hleft (hw n (Nat.lt_succ_self n))).resolve_left ?_
    exact fun hasked => Nat.ne_of_gt hasked hnone.2

end

/-- An output that was disabled, is repaired by itself and is enabled again: it is not disabled
before somebody asked to add it, in passes that find the process running without it, exactly when
its counter leaves room for an attempt in the first of these passes. -/
theorem rearmed_iff {ch ch' : Channel} (ha : ch.status = .active) (hm : ch.health.enabled = true)
    {reference : String} (href : ch.processReference = some reference) {i : Nat} {o : Output}
    (ho : ch.outputs[i]? = some o) (hauto : o.autoReconnect = true)
    (hlimit : max ch.health.threshold 1 < ch.reconnect.maxAttempts)
    (hmax : ch.reconnect.maxAttempts ≤ counterMax) (h : ch.Reenables i ch')
    (conns : Nat → Connection σ) {n : Nat} (hn : 0 < n)
    (hw : ∀ k < n, ∀ e ∈ (ch'.passesTalk conns k).exchanges (conns k),
      e.misses reference (remoteId o.platform i)) :
    (∀ k ≤ n, ∀ o', (ch'.afterPasses conns k).outputs[i]? = some o' → o'.enabled = false →
      0 < ∑ j ∈ Finset.range k, (ch'.passesTalk conns j).adds (remoteId o.platform i) (conns j)) ↔
      o.failures + 1 < ch.reconnect.maxAttempts := by
  obtain ⟨hterms, ho'⟩ := h.output ho
  have hstatus : ch'.status = .active := (congrArg Channel.status hterms).trans ha
  have hreference : ch'.processReference = some reference :=
    (congrArg Channel.processReference hterms).trans href
  have hhealth : ch'.health = ch.health := (congrArg Channel.health hterms :)
  have hreconnect : ch'.reconnect = ch.reconnect := (congrArg Channel.reconnect hterms :)
  have hmonitored : ch'.health.enabled = true := hhealth ▸ hm
  rw [← hreconnect] at hmax hlimit ⊢
  rw [← hhealth] at hlimit
  have hthreshold := (Nat.le_max_left _ _).trans_lt hlimit
  constructor
  · intro hlaw
    by_contra hspent
    have hcount : ch'.reconnect.maxAttempts ≤ countUp o.failures := by
      rw [countUp]
      omega
    obtain ⟨_, o₁, ho₁, hmissed⟩ := checkHealth_missed hstatus hmonitored hreference ho' (hw 0 hn)
    obtain ⟨rfl, hunasked⟩ := hmissed.exhausted rfl ⟨hauto, hthreshold.le.trans hcount⟩
      ⟨Nat.zero_lt_of_lt hthreshold, hcount⟩
    have hasked := hlaw 1 hn _ ho₁ rfl
    rw [Finset.sum_range_one] at hasked
    exact Nat.ne_of_gt hasked hunasked
  · intro hleft k hk o₁ ho₁ hdisabled
    refine Nat.pos_of_ne_zero fun hnone => ?_
    have hunasked := unasked_afterPasses hmonitored hreference hthreshold hmax hleft hstatus ho'
      hauto conns (fun j hj => hw j (hj.trans_le hk)) hnone
    obtain ⟨o₂, ho₂, _, he, _⟩ := hunasked.output
    obtain rfl := Option.some.inj (ho₁.symm.trans ho₂)
    exact Bool.false_ne_true (hdisabled.symm.trans he)

def resting : Channel := watched.changeOutput 0 ({ · with enabled := false })

theorem rearmed_iff_resting :
    let conns := fun _ : Nat => refusing 1
    (resting.status = .active ∧ resting.health.enabled = true ∧
      resting.processReference = some "channel" ∧
      max resting.health.threshold 1 < resting.reconnect.maxAttempts ∧
      resting.reconnect.maxAttempts ≤ counterMax ∧ resting.Reenables 0 watched) ∧
    ∀ o, resting.outputs[0]? = some o →
      (o.enabled = false ∧ o.autoReconnect = true ∧
        ∀ k < 3, ∀ e ∈ (watched.passesTalk conns k).exchanges (conns k),
          e.misses "channel" (remoteId o.platform 0)) ∧
      ∀ k ≤ 3, ∀ o', (watched.afterPasses conns k).outputs[0]? = some o' → o'.enabled = false →
        0 < ∑ j ∈ Finset.range k,
          (watched.passesTalk conns j).adds (remoteId o.platform 0) (conns j) := by
  intro conns
  have hchannel : resting.status = .active ∧ resting.health.enabled = true ∧
      resting.processReference = some "channel" ∧
      max resting.health.threshold 1 < resting.reconnect.maxAttempts ∧
      resting.reconnect.maxAttempts ≤ counterMax := by
    decide
  have henabled : resting.Reenables 0 watched := .alone (by decide)
  obtain ⟨ha, hm, href, hlimit, hmax⟩ := hchannel
  refine ⟨⟨ha, hm, href, hlimit, hmax, henabled⟩, fun o ho => ?_⟩
  have hoff : ∀ o, resting.outputs[0]? = some o → o.enabled = false ∧ o.autoReconnect = true ∧
      o.failures + 1 < resting.reconnect.maxAttempts ∧
      ∀ k < 3, ∀ e ∈ (watched.passesTalk conns k).exchanges (conns k),
        e.misses "channel" (remoteId o.platform 0) := by
    decide
  obtain ⟨hdisabled, hauto, hleft, hmissed⟩ := hoff o ho
  have hlaw := rearmed_iff ha hm href ho hauto hlimit hmax henabled conns (by decide) hmissed
  exact ⟨⟨hdisabled, hauto, hmissed⟩, hlaw.mpr hleft⟩

def givenUp : Channel := watched.afterPasses (fun _ => refusing 1) 3

/-- An output that was given up is enabled again, and the next pass that finds the process running
without it disables it once more, though nobody asked to add it. -/
theorem given_up_again :
    let conns := fun _ : Nat => refusing 1
    let enabled := givenUp.changeOutput 0 ({ · with enabled := true })
    (givenUp.status = .active ∧ givenUp.health.enabled = true ∧
      max givenUp.health.threshold 1 < givenUp.reconnect.maxAttempts) ∧
    givenUp.outputs.map (fun o => (o.enabled, o.autoReconnect, o.failures)) = [(false, true, 3)] ∧
    givenUp.setOutputEnabled 0 true = .ok enabled ∧
    (∀ e ∈ (enabled.passesTalk conns 0).exchanges (conns 0), e.misses "channel" "Custom_0") ∧
    (enabled.afterPasses conns 1).outputs.map (·.enabled) = [false] ∧
    ∑ j ∈ Finset.range 1, (enabled.passesTalk conns j).adds "Custom_0" (conns j) = 0 := by
  decide

end Simulcast.Channel
