import Mathlib.Algebra.BigOperators.Group.Finset.Basic
import Simulcast.Proofs.Channel.Counting

/-!
# Passes in a row that miss an output

As long as the process runs without an output and cannot be given it, each pass raises the counter
of the output by one. From the threshold on a pass also tries to add it, and once the maximum is
reached as well the output is given up.
-/

namespace Simulcast

namespace Exchange

/-- An exchange in which the process under a reference runs without the output of an id. -/
def misses (reference x : String) : Exchange → Bool
  | ⟨.listProcesses, .ok processes⟩ =>
    (processes.find? (·.reference == reference)).any ProcessInfo.isRunning
  | ⟨.listProcesses, .error _⟩ => false
  | ⟨.getOutputs _, .ok present⟩ => x ∉ present
  | ⟨.getOutputs _, .error _⟩ => false
  | _ => true

/-- An exchange in which the process under a reference runs without the output of an id, and is not
given it. -/
def withholds (reference x : String) : Exchange → Bool
  | ⟨.listProcesses, .ok processes⟩ =>
    (processes.find? (·.reference == reference)).any ProcessInfo.isRunning
  | ⟨.listProcesses, .error _⟩ => false
  | ⟨.getOutputs _, .ok present⟩ => x ∉ present
  | ⟨.getOutputs _, .error _⟩ => false
  | ⟨.addOutput _ output, .ok _⟩ => output.id != x
  | _ => true

theorem misses_of_withholds {reference x : String} {e : Exchange} (h : e.withholds reference x) :
    e.misses reference x := by
  obtain ⟨request, answer⟩ := e
  cases request <;> cases answer <;> first | exact h | rfl

end Exchange

namespace Channel

variable {σ : Type} [Service σ] {ch : Channel} {c : Connection σ} {reference x : String} {i : Nat}
  {o : Output} {present : List String} {checkedAt : Nat}

/-! ### One pass that misses an output -/

theorem findProcess_missed
    (h : Exchange.misses reference x ⟨.listProcesses, (c.perform .listProcesses).result⟩) :
    ∃ process, (c.findProcess reference).result = .ok (some process) ∧
      process.isRunning = true := by
  unfold Connection.findProcess
  generalize c.perform .listProcesses = listed at h ⊢
  obtain ⟨error | processes, c'⟩ := listed
  · cases h
  · simp only [Exchange.misses] at h
    cases hprocess : processes.find? (·.reference == reference) with
    | none => simp [hprocess] at h
    | some process =>
      refine ⟨process, congrArg Except.ok hprocess, ?_⟩
      simpa [hprocess] using h

theorem reconnectTalk_missed (ha : ch.status = .active)
    (href : ch.processReference = some reference) (ho : ch.outputs[i]? = some o)
    (hs : ¬ o.Spent ch.reconnect.maxAttempts)
    (hw : ∀ e ∈ (ch.reconnectTalk i).exchanges c, e.misses reference x) :
    ∃ id c', ((ch.reconnectTalk i).run c = (ch.reissueTalk i o id).run c') ∧
      (∀ y, (ch.reconnectTalk i).adds y c = (ch.reissueTalk i o id).adds y c') ∧
      (ch.reissueTalk i o id).exchanges c' ⊆ (ch.reconnectTalk i).exchanges c := by
  rw [reconnectTalk_unspent ha ho hs] at hw ⊢
  simp only [Talk.run, Talk.run_bind, Talk.adds_wait, Talk.adds_bind, adds_findTalk, Nat.zero_add,
    Talk.exchanges, Talk.exchanges_bind, exchanges_findTalk href, run_findTalk,
    findProcess_of_reference href] at hw ⊢
  obtain ⟨process, hfound, hrunning⟩ :=
    findProcess_missed (hw _ (List.mem_append_left _ (List.mem_singleton_self _)))
  simp only [hfound, if_pos hrunning]
  exact ⟨process.id, _, rfl, fun _ => rfl, List.subset_append_right _ _⟩

theorem sees_missed (href : ch.processReference = some reference) (now : Instant)
    (hw : ∀ e ∈ (ch.passTalk now).exchanges c, e.misses reference x) :
    ∃ present c₀, Sees c ch.processReference true present c₀ ∧ x ∉ present := by
  simp only [passTalk, Talk.exchanges_bind, exchanges_findTalk href, run_findTalk,
    findProcess_of_reference href] at hw
  obtain ⟨process, hfound, hrunning⟩ :=
    findProcess_missed (hw _ (List.mem_append_left _ (List.mem_singleton_self _)))
  simp only [hfound, if_pos hrunning, Talk.exchanges] at hw
  have hlisted := hw _ (List.mem_append_right _ List.mem_cons_self)
  rw [href]
  cases hpresent : ((c.findProcess reference).connection.perform (.getOutputs process.id)).result
    with
  | error error =>
    rw [hpresent] at hlisted
    cases hlisted
  | ok present =>
    rw [hpresent] at hlisted
    exact ⟨present, _, .running hfound hrunning hpresent, of_decide_eq_true hlisted⟩

theorem missed_noted (ho : ch.outputs[i]? = some o) (present : List String) (c₀ : Connection σ)
    (now : Instant) :
    let before := looked present now.unix { ch with lastCheck := some now } c₀ i
    let noted := before.1.changeOutput i fun _ => o.missedAt now.unix
    noted.status = ch.status ∧ noted.processReference = ch.processReference ∧
      noted.reconnect = ch.reconnect ∧ noted.outputs[i]? = some (o.missedAt now.unix) := by
  let start := { ch with lastCheck := some now }
  have hwithin := looked_within present now.unix start c₀ i
  have hout : start.outputs[i]? = some o := ho
  exact ⟨hwithin.status, hwithin.processReference, hwithin.reconnect,
    getElem?_changeOutput_eq (looked_before present now.unix c₀ hout) _⟩

/-- A look that is due to reconnect an output asks nothing else, and nothing but this look asks to
add the output. -/
theorem healthTalk_due (ha : ch.status = .active) (hm : ch.health.enabled = true) {running : Bool}
    {c₀ : Connection σ} (hsees : Sees c ch.processReference running present c₀)
    (ho : ch.outputs[i]? = some o) (he : o.enabled = true)
    (hp : remoteId o.platform i ∉ present)
    (hd : (o.missedAt c.now.unix).Due ch.health.threshold) :
    let before := looked present c.now.unix { ch with lastCheck := some c.now } c₀ i
    let noted := before.1.changeOutput i fun _ => o.missedAt c.now.unix
    (noted.reconnectTalk i).exchanges before.2 ⊆ (ch.healthTalk c.now).exchanges c ∧
      (ch.healthTalk c.now).adds (remoteId o.platform i) c =
        (noted.reconnectTalk i).adds (remoteId o.platform i) before.2 := by
  intro before noted
  let start := { ch with lastCheck := some c.now }
  have hout : start.outputs[i]? = some o := ho
  obtain ⟨hi, _⟩ := List.getElem?_eq_some_iff.mp hout
  have hwithin := looked_within present c.now.unix start c₀ i
  have hlook : inspectTalk present c.now.unix i before.1 =
      (noted.reconnectTalk i).bind fun answer => .done answer.2 :=
    inspectTalk_due (looked_before present c.now.unix c₀ hout) he hp (hwithin.health ▸ hd)
  obtain ⟨_, asked, hasked, _⟩ := checkHealth_sees ha hm hsees
  have hsub : (inspectTalk present c.now.unix i before.1).exchanges before.2 ⊆ _ :=
    exchanges_looks_subset present c.now.unix start c₀ hi
  rw [hlook, Talk.exchanges_bind] at hsub
  constructor
  · rw [hasked]
    exact fun e hmem => List.mem_append_right _ (hsub (List.mem_append_left _ hmem))
  · rw [adds_healthTalk ha hm hsees, adds_looks, if_pos hi, hlook, Talk.adds_bind,
      Talk.adds_done, Nat.add_zero]

/-- What comes of the output `o` in a pass that misses it: it is `o'` then, and the service was
asked `added` times to add it. -/
structure Missed (threshold attempts checkedAt : Nat) (o o' : Output) (added : Nat) : Prop where
  disabled : o.enabled = false → o' = o ∧ added = 0
  early : o.enabled = true → ¬ (o.missedAt checkedAt).Due threshold →
    o' = o.missedAt checkedAt ∧ added = 0
  exhausted : o.enabled = true → (o.missedAt checkedAt).Due threshold →
    (o.missedAt checkedAt).Spent attempts →
    o' = { o.missedAt checkedAt with enabled := false } ∧ added = 0
  tried : o.enabled = true → (o.missedAt checkedAt).Due threshold →
    ¬ (o.missedAt checkedAt).Spent attempts → added = 1

section

variable (ha : ch.status = .active) (hm : ch.health.enabled = true)
  (href : ch.processReference = some reference) (ho : ch.outputs[i]? = some o)

include ha hm href ho

/-- A pass that misses an output asks once to add it, if that is due and it is not given up. -/
theorem checkHealth_missed
    (hw : ∀ e ∈ (ch.healthTalk c.now).exchanges c, e.misses reference (remoteId o.platform i)) :
    Within (List.range ch.outputs.length) { ch with lastCheck := some c.now }
        (ch.checkHealth c).2.1 ∧
      ∃ o', (ch.checkHealth c).2.1.outputs[i]? = some o' ∧
        Missed ch.health.threshold ch.reconnect.maxAttempts c.now.unix o o'
          ((ch.healthTalk c.now).adds (remoteId o.platform i) c) := by
  let noted := { ch with lastCheck := some c.now }
  have htalk : ch.healthTalk c.now = noted.passTalk c.now := if_pos ⟨ha, hm⟩
  obtain ⟨present, c₀, hsees, hp⟩ :=
    sees_missed (show noted.processReference = some reference from href) c.now (htalk ▸ hw)
  obtain ⟨o', ho', hcounted⟩ := checkHealth_counted ha hm hsees ho
  refine ⟨?_, o', ho', fun he => ?_, fun he hd => ?_, fun he hd hs => ?_, fun he hd hs => ?_⟩
  · rw [(checkHealth_sees ha hm hsees).1]
    exact looked_within present c.now.unix noted c₀ ch.outputs.length
  · exact (hcounted.disabled he).imp_right And.left
  · exact (hcounted.missed he hp hd).imp_right And.left
  · exact (hcounted.exhausted he hp hd hs).imp_right And.left
  · obtain ⟨hsub, hadds⟩ := healthTalk_due ha hm hsees ho he hp hd
    obtain ⟨hstatus, hreference, hreconnect, hmissed⟩ := missed_noted ho present c₀ c.now
    obtain ⟨id, c', _, hreissue, _⟩ := reconnectTalk_missed (hstatus.trans ha)
      (hreference.trans href) hmissed (hreconnect.symm ▸ hs) fun e h => hw e (hsub h)
    exact hadds.trans ((hreissue _).trans ((adds_reissueTalk ..).trans (if_pos rfl)))

end

/-! ### One pass that withholds an output -/

theorem reissueTalk_withheld {id : String}
    (hw : ∀ e ∈ (ch.reissueTalk i o id).exchanges c,
      e.withholds reference (remoteId o.platform i)) :
    ((ch.reissueTalk i o id).run c).1.1 = .ok false := by
  simp only [reissueTalk, Talk.run, Talk.exchanges] at hw ⊢
  generalize (c.perform (.removeOutput id (ch.pushed i o).id)).connection = c' at hw ⊢
  have hadd := hw _ (List.mem_cons_of_mem _ List.mem_cons_self)
  generalize c'.perform (.addOutput id (ch.pushed i o)) = added at hadd ⊢
  obtain ⟨error | _, c''⟩ := added
  · rfl
  · simp [Exchange.withholds, pushed] at hadd

theorem reconnectTalk_withheld (ha : ch.status = .active)
    (href : ch.processReference = some reference) (ho : ch.outputs[i]? = some o)
    (hs : ¬ o.Spent ch.reconnect.maxAttempts)
    (hw : ∀ e ∈ (ch.reconnectTalk i).exchanges c,
      e.withholds reference (remoteId o.platform i)) :
    (ch.reconnectOutput i c).result = .ok false := by
  obtain ⟨id, c', hrun, _, hsub⟩ :=
    reconnectTalk_missed ha href ho hs fun e h => Exchange.misses_of_withholds (hw e h)
  rw [run_reconnectTalk] at hrun
  exact (congrArg (·.1.1) hrun).trans (reissueTalk_withheld fun e h => hw e (hsub h))

/-- A pass against which an output is withheld misses it and does not get it back. -/
theorem checkHealth_withheld (ha : ch.status = .active) (hm : ch.health.enabled = true)
    (href : ch.processReference = some reference) (ho : ch.outputs[i]? = some o)
    (hw : ∀ e ∈ (ch.healthTalk c.now).exchanges c,
      e.withholds reference (remoteId o.platform i)) :
    let missed := o.missedAt c.now.unix
    Within (List.range ch.outputs.length) { ch with lastCheck := some c.now }
        (ch.checkHealth c).2.1 ∧
      ∃ o', (ch.checkHealth c).2.1.outputs[i]? = some o' ∧
        Missed ch.health.threshold ch.reconnect.maxAttempts c.now.unix o o'
          ((ch.healthTalk c.now).adds (remoteId o.platform i) c) ∧
        (o.enabled = true → missed.Due ch.health.threshold →
          ¬ missed.Spent ch.reconnect.maxAttempts → o' = missed) := by
  intro missed
  have hw' := fun e h => Exchange.misses_of_withholds (hw e h)
  let noted := { ch with lastCheck := some c.now }
  have htalk : ch.healthTalk c.now = noted.passTalk c.now := if_pos ⟨ha, hm⟩
  obtain ⟨hpass, o', ho', hmissed⟩ := checkHealth_missed ha hm href ho hw'
  obtain ⟨present, c₀, hsees, hp⟩ :=
    sees_missed (show noted.processReference = some reference from href) c.now (htalk ▸ hw')
  refine ⟨hpass, o', ho', hmissed, fun he hd hs => ?_⟩
  obtain ⟨hsub, _⟩ := healthTalk_due ha hm hsees ho he hp hd
  obtain ⟨hstatus, hreference, hreconnect, hout⟩ := missed_noted ho present c₀ c.now
  have hfalse := reconnectTalk_withheld (hstatus.trans ha) (hreference.trans href) hout
    (hreconnect.symm ▸ hs) fun e h => hw e (hsub h)
  obtain ⟨o'', ho'', hcounted⟩ := checkHealth_counted ha hm hsees ho
  obtain rfl : o' = o'' := Option.some.inj (ho'.symm.trans ho'')
  obtain ⟨htrue, _⟩ | ⟨_, hsame, _⟩ := (hcounted.tried he hp hd hs).2
  · cases hfalse.symm.trans htrue
  · exact hsame

/-! ### Passes in a row -/

/-- The channel after passes in a row, of which each may find the connection in any state. -/
def afterPasses (ch : Channel) (conns : Nat → Connection σ) : Nat → Channel
  | 0 => ch
  | n + 1 => ((ch.afterPasses conns n).checkHealth (conns n)).2.1

def passesTalk (ch : Channel) (conns : Nat → Connection σ) (k : Nat) : Talk (Bool × Channel) :=
  (ch.afterPasses conns k).healthTalk (conns k).now

theorem run_passesTalk (ch : Channel) (conns : Nat → Connection σ) (k : Nat) :
    ((ch.passesTalk conns k).run (conns k)).1.2 = ch.afterPasses conns (k + 1) := by
  rw [passesTalk, run_healthTalk]
  rfl

/-- What `n` passes that missed it made of an output. -/
structure WornOutput (start : Channel) (platform : Platform) (n : Nat) (o : Output) : Prop where
  platform : o.platform = platform
  autoReconnect : o.autoReconnect = true
  failures : o.failures = min n (max start.health.threshold start.reconnect.maxAttempts)
  enabled : o.enabled = true ↔ n < max start.health.threshold start.reconnect.maxAttempts

/-- What `n` passes that missed the output at a position made of a channel. -/
structure Worn (start : Channel) (i : Nat) (platform : Platform) (n : Nat) (ch : Channel) :
    Prop where
  status : ch.status = .active
  processReference : ch.processReference = start.processReference
  health : ch.health = start.health
  reconnect : ch.reconnect = start.reconnect
  output : ∃ o, ch.outputs[i]? = some o ∧ WornOutput start platform n o

section

variable {start : Channel} {platform : Platform} {n : Nat} (hm : start.health.enabled = true)
  (href : start.processReference = some reference) (hpos : 0 < start.reconnect.maxAttempts)
  (hmax : max start.health.threshold start.reconnect.maxAttempts ≤ counterMax)

include hm href hpos hmax

theorem Worn.pass (h : Worn start i platform n ch)
    (hw : ∀ e ∈ (ch.healthTalk c.now).exchanges c,
      e.withholds reference (remoteId platform i)) :
    Worn start i platform (n + 1) (ch.checkHealth c).2.1 ∧
      (ch.healthTalk c.now).adds (remoteId platform i) c =
        if start.health.threshold ≤ n + 1 ∧ n + 1 < start.reconnect.maxAttempts then 1 else 0 := by
  obtain ⟨o, ho, rfl, hauto, hfailures, henabled⟩ := h.output
  obtain ⟨hwithin, o', ho', hmissed, htried⟩ :=
    checkHealth_withheld h.status (h.health ▸ hm) (h.processReference.trans href) ho hw
  rw [h.health, h.reconnect] at hmissed htried
  have worn (houtput : WornOutput start o.platform (n + 1) o') :
      Worn start i o.platform (n + 1) (ch.checkHealth c).2.1 :=
    ⟨hwithin.status.trans h.status, hwithin.processReference.trans h.processReference,
      hwithin.health.trans h.health, hwithin.reconnect.trans h.reconnect, o', ho', houtput⟩
  cases he : o.enabled with
  | false =>
    obtain ⟨rfl, hadded⟩ := hmissed.disabled he
    have hn : ¬ n < max start.health.threshold start.reconnect.maxAttempts := fun hlt =>
      Bool.false_ne_true (he.symm.trans (henabled.mpr hlt))
    refine ⟨worn ⟨rfl, hauto, by omega, ?_⟩, hadded.trans (if_neg (by omega)).symm⟩
    exact iff_of_false (by simp [he]) (by omega)
  | true =>
    have hn := henabled.mp he
    have hcount : countUp o.failures = n + 1 := by
      rw [countUp]
      omega
    have hdue : (o.missedAt c.now.unix).Due start.health.threshold ↔
        start.health.threshold ≤ n + 1 := by
      rw [← hcount]
      exact and_iff_right hauto
    have hspent : (o.missedAt c.now.unix).Spent start.reconnect.maxAttempts ↔
        start.reconnect.maxAttempts ≤ n + 1 := by
      rw [← hcount]
      exact and_iff_right hpos
    by_cases hd : start.health.threshold ≤ n + 1
    · by_cases hs : start.reconnect.maxAttempts ≤ n + 1
      · obtain ⟨rfl, hadded⟩ := hmissed.exhausted he (hdue.mpr hd) (hspent.mpr hs)
        refine ⟨worn ⟨rfl, hauto, hcount.trans (by omega), ?_⟩,
          hadded.trans (if_neg (by omega)).symm⟩
        exact iff_of_false Bool.false_ne_true (by omega)
      · have hunspent := mt hspent.mp hs
        have hadded := hmissed.tried he (hdue.mpr hd) hunspent
        obtain rfl := htried he (hdue.mpr hd) hunspent
        refine ⟨worn ⟨rfl, hauto, hcount.trans (by omega), ?_⟩,
          hadded.trans (if_pos (by omega)).symm⟩
        exact iff_of_true he (by omega)
    · obtain ⟨rfl, hadded⟩ := hmissed.early he (mt hdue.mp hd)
      refine ⟨worn ⟨rfl, hauto, hcount.trans (by omega), ?_⟩,
        hadded.trans (if_neg (by omega)).symm⟩
      exact iff_of_true he (by omega)

theorem worn_afterPasses {o : Output} (ha : start.status = .active)
    (ho : start.outputs[i]? = some o) (he : o.enabled = true) (hauto : o.autoReconnect = true)
    (hzero : o.failures = 0) (conns : Nat → Connection σ) {n : Nat}
    (hw : ∀ k < n, ∀ e ∈ (start.passesTalk conns k).exchanges (conns k),
      e.withholds reference (remoteId o.platform i)) :
    Worn start i o.platform n (start.afterPasses conns n) := by
  induction n with
  | zero =>
    exact ⟨ha, rfl, rfl, rfl, o, ho, rfl, hauto, by omega, iff_of_true he (by omega)⟩
  | succ n ih =>
    have hbefore := ih fun k hk => hw k (Nat.lt_succ_of_lt hk)
    exact (hbefore.pass hm href hpos hmax (hw n (Nat.lt_succ_self n))).1

end

/-- How many of the numbers up to `n` are at least `t`, not zero and below `m`. -/
theorem sum_attempts (t m n : Nat) (hm : 0 < m) :
    (∑ k ∈ Finset.range n, if t ≤ k + 1 ∧ k + 1 < m then 1 else 0) =
      min n (m - 1) + 1 - max t 1 := by
  induction n with
  | zero =>
    rw [Finset.sum_range_zero]
    omega
  | succ n ih =>
    rw [Finset.sum_range_succ, ih]
    split_ifs <;> omega

/-- An enabled output that is repaired by itself and starts out with a counter of zero, and that
passes in a row can neither find nor add, counts each of them until the counter has reached both the
threshold and the maximum. Then it is disabled, and stays so. It is asked to be added once for each
pass from the threshold on that does not reach the maximum. -/
theorem exhausted_after_passes {ch : Channel} (ha : ch.status = .active)
    (hm : ch.health.enabled = true) {reference : String}
    (href : ch.processReference = some reference) {i : Nat} {o : Output}
    (ho : ch.outputs[i]? = some o) (he : o.enabled = true) (hauto : o.autoReconnect = true)
    (hzero : o.failures = 0) (hpos : 0 < ch.reconnect.maxAttempts)
    (ht : ch.health.threshold ≤ counterMax) (hmax : ch.reconnect.maxAttempts ≤ counterMax)
    (conns : Nat → Connection σ) (n : Nat)
    (hw : ∀ k < n, ∀ e ∈ (ch.passesTalk conns k).exchanges (conns k),
      e.withholds reference (remoteId o.platform i)) :
    let t := ch.health.threshold
    let m := ch.reconnect.maxAttempts
    (∀ k, ((ch.passesTalk conns k).run (conns k)).1.2 = ch.afterPasses conns (k + 1)) ∧
    (∀ k ≤ n, ∃ o', (ch.afterPasses conns k).outputs[i]? = some o' ∧
      (k < max t m → o'.enabled = true ∧ o'.failures = k) ∧
      (max t m ≤ k → o'.enabled = false ∧ o'.failures = max t m)) ∧
    ∑ k ∈ Finset.range n, (ch.passesTalk conns k).adds (remoteId o.platform i) (conns k) =
      min n (m - 1) + 1 - max t 1 := by
  intro t m
  have hlast : max ch.health.threshold ch.reconnect.maxAttempts ≤ counterMax :=
    Nat.max_le.mpr ⟨ht, hmax⟩
  have hworn (k : Nat) (hk : k ≤ n) : Worn ch i o.platform k (ch.afterPasses conns k) :=
    worn_afterPasses hm href hpos hlast ha ho he hauto hzero conns
      fun j hj => hw j (Nat.lt_of_lt_of_le hj hk)
  refine ⟨ch.run_passesTalk conns, fun k hk => ?_, ?_⟩
  · obtain ⟨o', ho', _, _, hfailures, henabled⟩ := (hworn k hk).output
    refine ⟨o', ho', fun hlt => ⟨henabled.mpr hlt, by omega⟩, fun hle => ⟨?_, by omega⟩⟩
    exact Bool.eq_false_iff.mpr fun h => absurd (henabled.mp h) (Nat.not_lt.mpr hle)
  · rw [← sum_attempts t m n hpos]
    refine Finset.sum_congr rfl fun k hk => ?_
    have hk' := Finset.mem_range.mp hk
    exact ((hworn k hk'.le).pass hm href hpos hlast (hw k hk')).2

theorem exhausted_after_passes_watched :
    let conns := fun _ : Nat => refusing 1
    (watched.status = .active ∧ watched.health.enabled = true ∧
      watched.processReference = some "channel" ∧ 0 < watched.reconnect.maxAttempts ∧
      watched.health.threshold ≤ counterMax ∧ watched.reconnect.maxAttempts ≤ counterMax) ∧
    ∀ o, watched.outputs[0]? = some o →
      (o.enabled = true ∧ o.autoReconnect = true ∧ o.failures = 0 ∧
        ∀ k < 4, ∀ e ∈ (watched.passesTalk conns k).exchanges (conns k),
          e.withholds "channel" (remoteId o.platform 0)) ∧
      (∀ k ≤ 4, ∃ o', (watched.afterPasses conns k).outputs[0]? = some o' ∧
        (k < 3 → o'.enabled = true ∧ o'.failures = k) ∧
        (3 ≤ k → o'.enabled = false ∧ o'.failures = 3)) ∧
      ∑ k ∈ Finset.range 4, (watched.passesTalk conns k).adds (remoteId o.platform 0) (conns k) =
        1 := by
  intro conns
  have hchannel : watched.status = .active ∧ watched.health.enabled = true ∧
      watched.processReference = some "channel" ∧ 0 < watched.reconnect.maxAttempts ∧
      watched.health.threshold ≤ counterMax ∧ watched.reconnect.maxAttempts ≤ counterMax := by
    decide
  refine ⟨hchannel, fun o ho => ?_⟩
  obtain rfl := Option.some.inj ho
  have hwithheld : ∀ k < 4, ∀ e ∈ (watched.passesTalk conns k).exchanges (conns k),
      e.withholds "channel" (remoteId .custom 0) := by
    decide
  obtain ⟨ha, hm, href, hpos, ht, hmax⟩ := hchannel
  obtain ⟨_, hcounts, hattempts⟩ :=
    exhausted_after_passes ha hm href ho rfl rfl rfl hpos ht hmax conns 4 hwithheld
  exact ⟨⟨rfl, rfl, rfl, hwithheld⟩, hcounts, hattempts⟩

end Channel

end Simulcast
