import Simulcast.Proofs.Channel.Looking
import Simulcast.Remote.Simulated

/-!
# What a health pass does to the counters

A pass either ends before it looks at the outputs or takes one look at each of them, in order. A
look at one position changes no other output and asks to add no other output, so what becomes of an
output is decided by the one look at it.
-/

namespace Simulcast.Channel

variable {σ : Type} [Service σ]

/-- A pass over a channel with this reference ends before it looks at the outputs. -/
inductive EndsEarly (c : Connection σ) : Option String → Prop where
  | unreferenced : EndsEarly c none
  | unlisted {reference : String} {error : RemoteError}
      (hfound : (c.findProcess reference).result = .error error) : EndsEarly c (some reference)
  | absent {reference : String} (hfound : (c.findProcess reference).result = .ok none) :
      EndsEarly c (some reference)
  | unread {reference : String} {process : ProcessInfo} {error : RemoteError}
      (hfound : (c.findProcess reference).result = .ok (some process))
      (hrunning : process.isRunning = true)
      (hlisted : ((c.findProcess reference).connection.perform
        (.getOutputs process.id)).result = .error error) : EndsEarly c (some reference)

/-- Such a pass sees whether the process runs and which outputs it has, and is left with this
connection. A process that does not run has none. -/
inductive Sees (c : Connection σ) :
    Option String → Bool → List String → Connection σ → Prop where
  | running {reference : String} {process : ProcessInfo} {present : List String}
      (hfound : (c.findProcess reference).result = .ok (some process))
      (hrunning : process.isRunning = true)
      (hlisted : ((c.findProcess reference).connection.perform
        (.getOutputs process.id)).result = .ok present) :
      Sees c (some reference) true present
        ((c.findProcess reference).connection.perform (.getOutputs process.id)).connection
  | halted {reference : String} {process : ProcessInfo}
      (hfound : (c.findProcess reference).result = .ok (some process))
      (hrunning : process.isRunning = false) :
      Sees c (some reference) false [] (c.findProcess reference).connection

variable {ch : Channel} {c c₀ : Connection σ} {running : Bool} {present : List String}

theorem endsEarly_or_sees (c : Connection σ) (reference? : Option String) :
    EndsEarly c reference? ∨ ∃ running present c₀, Sees c reference? running present c₀ := by
  cases reference? with
  | none => exact .inl .unreferenced
  | some reference =>
    cases hfound : (c.findProcess reference).result with
    | error error => exact .inl (.unlisted hfound)
    | ok found =>
      cases found with
      | none => exact .inl (.absent hfound)
      | some process =>
        cases hrunning : process.isRunning with
        | false => exact .inr ⟨_, _, _, .halted hfound hrunning⟩
        | true =>
          cases hlisted : ((c.findProcess reference).connection.perform
              (.getOutputs process.id)).result with
          | error error => exact .inl (.unread hfound hrunning hlisted)
          | ok present => exact .inr ⟨_, _, _, .running hfound hrunning hlisted⟩

/-! ### Before the outputs -/

theorem findProcess_of_reference {reference : String} (href : ch.processReference = some reference)
    (c : Connection σ) :
    ch.findProcess c =
      (match (c.findProcess reference).result with
        | .error error => .error (.remote error)
        | .ok none => .error (.processNotFound reference)
        | .ok (some process) => .ok process,
        (c.findProcess reference).connection) := by
  simp only [findProcess, href]
  generalize c.findProcess reference = found
  obtain ⟨error | (_ | process), c'⟩ := found <;> rfl

theorem passTalk_endsEarly (h : EndsEarly c ch.processReference) (now : Instant) :
    ((ch.passTalk now).run c).1.1 = false ∧
      ((ch.passTalk now).run c).1.2.outputs = ch.outputs := by
  rw [passTalk, Talk.run_bind, run_findTalk]
  generalize href : ch.processReference = reference? at h
  cases h with
  | unreferenced =>
    rw [findProcess, href]
    exact ⟨rfl, rfl⟩
  | unlisted hfound =>
    rw [findProcess_of_reference href, hfound]
    exact ⟨rfl, rfl⟩
  | absent hfound =>
    rw [findProcess_of_reference href, hfound]
    exact ⟨rfl, rfl⟩
  | unread hfound hrunning hlisted =>
    rw [findProcess_of_reference href, hfound]
    simp only [if_pos hrunning, Talk.run, hlisted]
    exact ⟨trivial, rfl⟩

/-! ### One look after the other -/

/-- The channel and the connection after looks at the first `n` outputs. -/
def looked (present : List String) (checkedAt : Nat) (ch : Channel) (c : Connection σ) (n : Nat) :
    Channel × Connection σ := inspectEach present checkedAt (List.range n) ch c

def looks (present : List String) (checkedAt n : Nat) (ch : Channel) : Talk Channel :=
  inspectEachTalk present checkedAt (List.range n) ch

section

variable (present : List String) (checkedAt : Nat) (ch : Channel) (c : Connection σ)

theorem run_looks (n : Nat) :
    (looks present checkedAt n ch).run c = looked present checkedAt ch c n :=
  run_inspectEachTalk present checkedAt (List.range n) ch c

theorem looks_succ (n : Nat) :
    looks present checkedAt (n + 1) ch =
      (looks present checkedAt n ch).bind (inspectEachTalk present checkedAt [n]) := by
  rw [looks, List.range_succ, inspectEachTalk_append]
  rfl

theorem exchanges_looks_succ (n : Nat) :
    let before := looked present checkedAt ch c n
    (looks present checkedAt (n + 1) ch).exchanges c =
      (looks present checkedAt n ch).exchanges c ++
        (inspectTalk present checkedAt n before.1).exchanges before.2 := by
  rw [looks_succ, Talk.exchanges_bind, run_looks, inspectEachTalk, Talk.exchanges_bind]
  exact congrArg _ (List.append_nil _)

theorem looked_succ (n : Nat) :
    let before := looked present checkedAt ch c n
    looked present checkedAt ch c (n + 1) =
      (inspectTalk present checkedAt n before.1).run before.2 := by
  intro before
  rw [← run_looks, looks_succ, Talk.run_bind, run_looks, inspectEachTalk, Talk.run_bind]
  rfl

theorem looked_succ_within (n : Nat) :
    Within [n] (looked present checkedAt ch c n).1 (looked present checkedAt ch c (n + 1)).1 := by
  rw [looked_succ, run_inspectTalk]
  exact inspectOutput_within _ present checkedAt n _

theorem looked_within (n : Nat) :
    Within (List.range n) ch (looked present checkedAt ch c n).1 := by
  induction n with
  | zero => exact .refl _ ch
  | succ n ih =>
    refine (ih.mono fun i hi => ?_).trans ((looked_succ_within present checkedAt ch c n).mono ?_)
    · exact List.mem_range.mpr (Nat.lt_succ_of_lt (List.mem_range.mp hi))
    · simp

theorem looked_stays {i n : Nat} (hi : i < n) :
    (looked present checkedAt ch c n).1.outputs[i]? =
      (looked present checkedAt ch c (i + 1)).1.outputs[i]? := by
  induction n, hi using Nat.le_induction with
  | base => rfl
  | succ n hn ih =>
    refine ((looked_succ_within present checkedAt ch c n).others i ?_).trans ih
    simp only [List.mem_singleton]
    omega

theorem exchanges_looks_subset {i n : Nat} (hi : i < n) :
    let before := looked present checkedAt ch c i
    (inspectTalk present checkedAt i before.1).exchanges before.2 ⊆
      (looks present checkedAt n ch).exchanges c := by
  intro before
  induction n, hi using Nat.le_induction with
  | base =>
    rw [exchanges_looks_succ]
    exact List.subset_append_right _ _
  | succ n _ ih =>
    rw [exchanges_looks_succ]
    exact List.subset_append_of_subset_left _ ih

theorem adds_looks_succ (x : String) (n : Nat) :
    let before := looked present checkedAt ch c n
    (looks present checkedAt (n + 1) ch).adds x c =
      (looks present checkedAt n ch).adds x c +
        (inspectTalk present checkedAt n before.1).adds x before.2 := by
  rw [Talk.adds, exchanges_looks_succ, List.countP_append]
  rfl

/-- Only the look at an output asks to add it. -/
theorem adds_looks (platform : Platform) (i n : Nat) :
    let before := looked present checkedAt ch c i
    let x := remoteId platform i
    (looks present checkedAt n ch).adds x c =
      if i < n then (inspectTalk present checkedAt i before.1).adds x before.2 else 0 := by
  intro before x
  induction n with
  | zero => rfl
  | succ n ih =>
    rw [adds_looks_succ, ih]
    have other (hne : i ≠ n) (d : Channel × Connection σ) :
        (inspectTalk present checkedAt n d.1).adds x d.2 = 0 :=
      adds_inspectTalk d.1 fun _ hq => hne (remoteId_injective hq).2.symm
    obtain hlt | rfl | hgt := Nat.lt_trichotomy i n
    · rw [if_pos hlt, if_pos (Nat.lt_succ_of_lt hlt), other (Nat.ne_of_lt hlt), Nat.add_zero]
    · rw [if_neg (Nat.lt_irrefl i), if_pos (Nat.lt_succ_self i), Nat.zero_add]
    · rw [if_neg (by omega), if_neg (by omega), other (Nat.ne_of_gt hgt), Nat.add_zero]

end

theorem looked_before {ch : Channel} (present : List String) (checkedAt : Nat) (c : Connection σ)
    {i : Nat} {o : Output} (ho : ch.outputs[i]? = some o) :
    (looked present checkedAt ch c i).1.outputs[i]? = some o :=
  ((looked_within present checkedAt ch c i).others i List.not_mem_range_self).trans ho

/-- What comes of an output during the looks at all of them. -/
theorem looks_counted {ch : Channel} (ha : ch.status = .active) (present : List String)
    (checkedAt : Nat) (c : Connection σ) {i : Nat} {o : Output} (ho : ch.outputs[i]? = some o) :
    let n := ch.outputs.length
    let looked := looked present checkedAt ch c
    ∃ o', (looked n).1.outputs[i]? = some o' ∧
      Counted ch.health.threshold ch.reconnect.maxAttempts present checkedAt i
        (looked i) (looked (i + 1)) o o'
        ((looks present checkedAt n ch).adds (remoteId o.platform i) c) := by
  intro n looked
  obtain ⟨hi, _⟩ := List.getElem?_eq_some_iff.mp ho
  have hwithin := looked_within present checkedAt ch c i
  have hstep : looked (i + 1) = _ := looked_succ present checkedAt ch c i
  obtain ⟨o', ho', hcounted⟩ := inspectTalk_counted (looked i).2 present checkedAt
    (hwithin.status.trans ha) (looked_before present checkedAt c ho)
  rw [hwithin.health, hwithin.reconnect] at hcounted
  rw [looked_stays present checkedAt ch c hi, looked_succ, adds_looks, if_pos hi, hstep]
  exact ⟨o', ho', hcounted⟩

/-! ### The whole pass -/

/-- A pass that sees the process asks nothing else before it looks at the outputs. -/
theorem passTalk_sees (h : Sees c ch.processReference running present c₀) (now : Instant) :
    let last := looked present now.unix ch c₀ ch.outputs.length
    (∃ healthy, (ch.passTalk now).run c = ((healthy, last.1), last.2)) ∧
      ∃ asked, (ch.passTalk now).exchanges c =
          asked ++ (looks present now.unix ch.outputs.length ch).exchanges c₀ ∧
        ∀ x, asked.countP (Exchange.adds x) = 0 := by
  intro last
  have hrun (running : Bool) : (ch.inspectAllTalk now.unix running present).run c₀ =
      ((running && last.1.allConnected, last.1), last.2) :=
    ch.run_inspectAllTalk now.unix running present c₀
  have hasks (running : Bool) : (ch.inspectAllTalk now.unix running present).exchanges c₀ =
      (looks present now.unix ch.outputs.length ch).exchanges c₀ := by
    rw [inspectAllTalk, Talk.exchanges_bind]
    exact List.append_nil _
  rw [passTalk, Talk.run_bind, Talk.exchanges_bind, run_findTalk]
  generalize href : ch.processReference = reference? at h
  cases h with
  | running hfound hrunning hlisted =>
    rw [exchanges_findTalk href, findProcess_of_reference href, hfound]
    simp only [if_pos hrunning, Talk.run, Talk.exchanges, hlisted, hrun, hasks]
    exact ⟨⟨_, rfl⟩, [_, _], rfl, fun x => rfl⟩
  | halted hfound hrunning =>
    rw [exchanges_findTalk href, findProcess_of_reference href, hfound]
    simp only [hrunning, Bool.false_eq_true, if_false, hrun, hasks]
    exact ⟨⟨_, rfl⟩, [_], rfl, fun x => rfl⟩

section

variable (ha : ch.status = .active) (hm : ch.health.enabled = true)
include ha hm

theorem checkHealth_endsEarly (h : EndsEarly c ch.processReference) :
    (ch.checkHealth c).1 = false ∧ (ch.checkHealth c).2.1.outputs = ch.outputs := by
  let noted := { ch with lastCheck := some c.now }
  have htalk : ch.healthTalk c.now = noted.passTalk c.now := if_pos ⟨ha, hm⟩
  have hearly := passTalk_endsEarly (show EndsEarly c noted.processReference from h) c.now
  rw [← htalk, run_healthTalk] at hearly
  exact hearly

theorem checkHealth_sees (h : Sees c ch.processReference running present c₀) :
    let noted := { ch with lastCheck := some c.now }
    let n := ch.outputs.length
    (ch.checkHealth c).2 = looked present c.now.unix noted c₀ n ∧
      ∃ asked, (ch.healthTalk c.now).exchanges c =
          asked ++ (looks present c.now.unix n noted).exchanges c₀ ∧
        ∀ x, asked.countP (Exchange.adds x) = 0 := by
  intro noted n
  have htalk : ch.healthTalk c.now = noted.passTalk c.now := if_pos ⟨ha, hm⟩
  obtain ⟨⟨healthy, hlooked⟩, hasked⟩ :=
    passTalk_sees (show Sees c noted.processReference running present c₀ from h) c.now
  rw [← htalk] at hlooked hasked
  rw [run_healthTalk] at hlooked
  exact ⟨Prod.ext (congrArg (·.1.2) hlooked) (congrArg (·.2) hlooked), hasked⟩

theorem adds_healthTalk (h : Sees c ch.processReference running present c₀) (x : String) :
    let noted := { ch with lastCheck := some c.now }
    (ch.healthTalk c.now).adds x c =
      (looks present c.now.unix ch.outputs.length noted).adds x c₀ := by
  intro noted
  obtain ⟨_, asked, hasked, hnone⟩ := checkHealth_sees ha hm h
  rw [Talk.adds, hasked, List.countP_append, hnone, Nat.zero_add]
  rfl

theorem checkHealth_counted (h : Sees c ch.processReference running present c₀) {i : Nat}
    {o : Output} (ho : ch.outputs[i]? = some o) :
    let looked := looked present c.now.unix { ch with lastCheck := some c.now } c₀
    ∃ o', (ch.checkHealth c).2.1.outputs[i]? = some o' ∧
      Counted ch.health.threshold ch.reconnect.maxAttempts present c.now.unix i
        (looked i) (looked (i + 1)) o o'
        ((ch.healthTalk c.now).adds (remoteId o.platform i) c) := by
  let noted := { ch with lastCheck := some c.now }
  have hadds := adds_healthTalk ha hm h (remoteId o.platform i)
  rw [(checkHealth_sees ha hm h).1, hadds]
  exact looks_counted (show noted.status = .active from ha) present c.now.unix c₀ ho

end

/-- A pass over an active, monitored channel that ends early is not healthy and changes no output.
Any other takes one look at each output, in order. -/
theorem health_pass_counts {ch : Channel} (ha : ch.status = .active)
    (hm : ch.health.enabled = true) (c : Connection σ) :
    let pass := ch.checkHealth c
    let talk := ch.healthTalk c.now
    talk.run c = ((pass.1, pass.2.1), pass.2.2) ∧
    (EndsEarly c ch.processReference → pass.1 = false ∧ pass.2.1.outputs = ch.outputs) ∧
    (¬ EndsEarly c ch.processReference →
      ∃ running present c₀, Sees c ch.processReference running present c₀ ∧
      let looked := looked present c.now.unix { ch with lastCheck := some c.now } c₀
      pass.2 = looked ch.outputs.length ∧ pass.2.1.outputs.length = ch.outputs.length ∧
      ∀ (i : Nat) (o : Output), ch.outputs[i]? = some o →
        ∃ o', pass.2.1.outputs[i]? = some o' ∧
          Counted ch.health.threshold ch.reconnect.maxAttempts present c.now.unix i
            (looked i) (looked (i + 1)) o o' (talk.adds (remoteId o.platform i) c)) := by
  intro pass talk
  refine ⟨ch.run_healthTalk c, checkHealth_endsEarly ha hm, fun hearly => ?_⟩
  obtain ⟨running, present, c₀, hsees⟩ :=
    (endsEarly_or_sees c ch.processReference).resolve_left hearly
  obtain ⟨hpass, _⟩ := checkHealth_sees ha hm hsees
  refine ⟨running, present, c₀, hsees, hpass, ?_, fun i o ho => checkHealth_counted ha hm hsees ho⟩
  rw [show pass.2 = _ from hpass]
  exact (looked_within present c.now.unix _ c₀ ch.outputs.length).length

def watched : Channel where
  id := "channel"
  name := ""
  status := .active
  processReference := some "channel"
  outputs :=
    [{ id := ⟨0⟩, platform := .custom, streamKey := "key", orientation := .auto, encoding := {}
       autoReconnect := true }]
  reconnect := { maxAttempts := 3 }
  health := { enabled := true, threshold := 2 }

/-- A connection to a service whose one process runs without outputs, and which fails to add the
next ones. -/
def refusing (count : Nat) : Connection Simulated where
  session :=
    { settings := { host := "localhost", port := 8080, username := "user", password := "secret" } }
  clock := .startingAt 0
  remote := Simulated.failNext
    { username := "user", password := "secret"
      processes :=
        [{ info := { id := "process", reference := "channel", state := ProcessInfo.runningState }
           inputUrl := "", outputs := [] }] }
    .addOutput count

theorem not_endsEarly_watched : ¬ EndsEarly (refusing 1) watched.processReference := by
  have hfound : ((refusing 1).findProcess "channel").result =
      .ok (some { id := "process", reference := "channel", state := ProcessInfo.runningState }) :=
    rfl
  have hlisted : (((refusing 1).findProcess "channel").connection.perform
      (.getOutputs "process")).result = .ok [] := rfl
  intro h
  cases h with
  | unlisted hfound' => cases hfound.symm.trans hfound'
  | absent hfound' => cases hfound.symm.trans hfound'
  | unread hfound' _ hlisted' =>
    cases hfound.symm.trans hfound'
    cases hlisted.symm.trans hlisted'

theorem health_pass_counts_watched :
    let c := refusing 1
    let pass := watched.checkHealth c
    (watched.status = .active ∧ watched.health.enabled = true ∧
      ¬ EndsEarly c watched.processReference) ∧
    ∃ running present c₀, Sees c watched.processReference running present c₀ ∧
      let looked := looked present c.now.unix { watched with lastCheck := some c.now } c₀
      pass.2 = looked 1 ∧ ∀ o, watched.outputs[0]? = some o →
        ∃ o', pass.2.1.outputs[0]? = some o' ∧
          Counted 2 3 present c.now.unix 0 (looked 0) (looked 1) o o'
            ((watched.healthTalk c.now).adds (remoteId o.platform 0) c) := by
  intro c pass
  have ha : watched.status = .active := rfl
  have hm : watched.health.enabled = true := rfl
  obtain ⟨_, _, hlooks⟩ := health_pass_counts ha hm c
  obtain ⟨running, present, c₀, hsees, hpass, _, hcounted⟩ := hlooks not_endsEarly_watched
  exact ⟨⟨ha, hm, not_endsEarly_watched⟩, running, present, c₀, hsees, hpass, hcounted 0⟩

end Simulcast.Channel
