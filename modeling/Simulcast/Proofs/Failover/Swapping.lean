import Simulcast.Proofs.Channel.Conversation
import Simulcast.Proofs.Failover.Switching
import Simulcast.Proofs.Remote.Owning

/-!
# Swapping two outputs on the air

A failover and a restore put one output on the process before they take the other off. Told as a
conversation the swap shows what the service has between its requests. Until the first of the two
requests has succeeded nothing changes, and from then on the new output is there.
-/

namespace Simulcast

open Simulated (Alike)

namespace Channel

variable {σ : Type} [Service σ] {ch : Channel}

def takeOffTalk (id removed : String) : Talk (Except ChannelError Unit) :=
  .ask (.removeOutput id removed) fun _ => .done (.ok ())

/-- What follows the answer to the addition of another output. -/
def onwardTalk (id removed : String) :
    Except RemoteError Unit → Talk (Except ChannelError Unit)
  | .ok () => takeOffTalk id removed
  | .error error =>
    if error.isConflict then takeOffTalk id removed else .done (.error (.remote error))

def exchangeTalk (id : String) (added : ProcessOutput) (removed : String) :
    Talk (Except ChannelError Unit) := .ask (.addOutput id added) (onwardTalk id removed)

def swapTalk (ch : Channel) (outgoing incoming : Nat) : Talk (Except ChannelError Unit) :=
  ch.findTalk.bind fun
    | .error error => .done (.error error)
    | .ok process =>
      match ch.processOutput? incoming, ch.remoteOutputId? outgoing with
      | none, _ => .done (.error (ch.noOutput incoming))
      | some _, none => .done (.error (ch.noOutput outgoing))
      | some added, some removed => exchangeTalk process.id added removed

theorem run_swapTalk (ch : Channel) (outgoing incoming : Nat) (c : Connection σ) :
    (ch.swapTalk outgoing incoming).run c = ch.swapRemote outgoing incoming c := by
  rw [swapTalk, Talk.run_bind, run_findTalk, swapRemote]
  obtain ⟨error | process, c₁⟩ := ch.findProcess c
  · rfl
  · simp only
    cases ch.processOutput? incoming with
    | none => rfl
    | some added =>
      cases ch.remoteOutputId? outgoing with
      | none => rfl
      | some removed =>
        simp only [exchangeTalk, Talk.run, onwardTalk]
        obtain ⟨error | _, c₂⟩ := c₁.perform (.addOutput process.id added)
        · simp only
          split_ifs <;> rfl
        · rfl

theorem throughout_findTalk {P : Connection σ → Prop} {c : Connection σ} (hbefore : P c)
    (hafter : P (ch.findProcess c).2) : ch.findTalk.Throughout P c := by
  rw [← run_findTalk] at hafter
  cases href : ch.processReference with
  | none =>
    rw [findTalk, href]
    exact hbefore
  | some reference =>
    simp only [findTalk, href, Talk.run, Talk.Throughout] at hafter ⊢
    refine ⟨hbefore, ?_⟩
    generalize c.perform .listProcesses = listed at hafter ⊢
    obtain ⟨error | processes, c'⟩ := listed
    · exact hafter
    · cases hfound : processes.find? (·.reference == reference) <;>
        simpa only [hfound, Talk.run, Talk.Throughout] using hafter

/-! ### Over the simulated service -/

/-- A conversation put one output on the process of the channel and took another off. -/
structure Swaps (ch : Channel) (added removed : String) (talk : Talk (Except ChannelError Unit))
    (c : Connection Simulated) : Prop where
  put : ch.OnProcess (talk.run c).2.remote added
  taken : ch.OnProcess (talk.run c).2.remote removed →
    ∃ id error, (⟨.removeOutput id removed, .error error⟩ : Exchange) ∈ talk.exchanges c
  kept : (talk.run c).2.remote.besides ch.processReference [added, removed] =
    c.remote.besides ch.processReference [added, removed]
  covered : ch.OnProcess c.remote removed →
    talk.Throughout (fun d => ch.OnProcess d.remote removed ∨ ch.OnProcess d.remote added) c

variable {p : RunningProcess} {c : Connection Simulated} {added : ProcessOutput} {removed : String}

/-- The one output stays on the process while the other is taken off. -/
theorem takeOffTalk_swaps (h : ch.Owns p c.remote) {put : String} (hput : put ∈ p.outputIds)
    (hne : put ≠ removed) : ch.Swaps put removed (takeOffTalk p.info.id removed) c := by
  have hmem : removed ∈ [put, removed] := List.mem_pair.mpr (.inr rfl)
  have hbefore := (h.onProcess_iff put).mpr hput
  obtain ⟨_, hbecame⟩ | ⟨error, herror, _, halike⟩ := h.removeOutput hmem
  · have hafter := (hbecame.owns.onProcess_iff put).mpr
      ((RunningProcess.mem_outputIds_withoutOutput removed put).mpr ⟨hne, hput⟩)
    refine ⟨hafter, fun hstays => ?_, hbecame.besides, fun _ => ⟨.inr hbefore, .inr hafter⟩⟩
    have hmem := (hbecame.owns.onProcess_iff removed).mp hstays
    exact absurd rfl ((RunningProcess.mem_outputIds_withoutOutput removed removed).mp hmem).1
  · have hafter := (OnProcess.of_alike halike put).mpr hbefore
    refine ⟨hafter, fun _ => ⟨p.info.id, error, ?_⟩, halike.besides _ _,
      fun _ => ⟨.inr hbefore, .inr hafter⟩⟩
    exact List.mem_singleton.mpr (congrArg (Exchange.mk _) herror.symm)

/-- What goes before a swap keeps the other output on the process. -/
theorem Swaps.bind {α : Type} {t : Talk α} {g : α → Talk (Except ChannelError Unit)}
    {put : String} (h : ch.Swaps put removed (g (t.run c).1) (t.run c).2)
    (hkept : (t.run c).2.remote.besides ch.processReference [put, removed] =
      c.remote.besides ch.processReference [put, removed])
    (hstays : ch.OnProcess c.remote removed →
      t.Throughout (fun d => ch.OnProcess d.remote removed) c) :
    ch.Swaps put removed (t.bind g) c where
  put := by
    rw [Talk.run_bind]
    exact h.put
  taken := by
    rw [Talk.run_bind, Talk.exchanges_bind]
    intro hstill
    obtain ⟨id, error, hmem⟩ := h.taken hstill
    exact ⟨id, error, List.mem_append_right _ hmem⟩
  kept := by
    rw [Talk.run_bind]
    exact h.kept.trans hkept
  covered := fun hbefore =>
    Talk.throughout_bind ((hstays hbefore).mono fun _ => .inl)
      (h.covered (Talk.run_of_throughout (hstays hbefore)))

/-- How a swap comes out: nothing happened, or it was made. -/
def Comes (ch : Channel) (put removed : String) (talk : Talk (Except ChannelError Unit))
    (c : Connection Simulated) : Prop :=
  (∃ error, (talk.run c).1 = .error error ∧ Alike c.remote (talk.run c).2.remote) ∨
    ((talk.run c).1 = .ok () ∧ ch.Swaps put removed talk c)

theorem Comes.bind {α : Type} {t : Talk α} {g : α → Talk (Except ChannelError Unit)} {put : String}
    (h : ch.Comes put removed (g (t.run c).1) (t.run c).2)
    (hsame : Alike c.remote (t.run c).2.remote)
    (hstays : ch.OnProcess c.remote removed →
      t.Throughout (fun d => ch.OnProcess d.remote removed) c) :
    ch.Comes put removed (t.bind g) c := by
  rw [Comes, Talk.run_bind]
  obtain ⟨error, herror, halike⟩ | ⟨hok, hswaps⟩ := h
  · exact .inl ⟨error, herror, hsame.trans halike⟩
  · exact .inr ⟨hok, hswaps.bind (hsame.besides _ _) hstays⟩

theorem exchangeTalk_goes_on (h : ch.Owns p c.remote) (hne : added.id ≠ removed)
    {q : RunningProcess} (hinfo : q.info = p.info)
    (hnext : onwardTalk p.info.id removed (c.perform (.addOutput p.info.id added)).result =
      takeOffTalk p.info.id removed)
    (hbecame : ch.Became [added.id, removed] c.remote q
      (c.perform (.addOutput p.info.id added)).connection.remote)
    (hput : added.id ∈ q.outputIds) (hkeeps : ∀ x ∈ p.outputIds, x ∈ q.outputIds) :
    ch.Comes added.id removed (exchangeTalk p.info.id added removed) c := by
  have hswaps := takeOffTalk_swaps hbecame.owns hput hne
  rw [hinfo, ← hnext] at hswaps
  let asked : Talk (Except RemoteError Unit) := .ask (.addOutput p.info.id added) .done
  have hstays (hbefore : ch.OnProcess c.remote removed) :
      asked.Throughout (fun d => ch.OnProcess d.remote removed) c :=
    ⟨hbefore, (hbecame.owns.onProcess_iff removed).mpr
      (hkeeps removed ((h.onProcess_iff removed).mp hbefore))⟩
  have htalk : exchangeTalk p.info.id added removed = asked.bind (onwardTalk p.info.id removed) :=
    rfl
  rw [htalk]
  refine .inr ⟨?_, Swaps.bind hswaps hbecame.besides hstays⟩
  rw [Talk.run_bind]
  exact congrArg (fun talk => (talk.run (asked.run c).2).1) hnext

theorem exchangeTalk_comes (h : ch.Owns p c.remote) (hne : added.id ≠ removed) :
    ch.Comes added.id removed (exchangeTalk p.info.id added removed) c := by
  have hmem : added.id ∈ [added.id, removed] := List.mem_pair.mpr (.inl rfl)
  obtain ⟨hok, _, hbecame⟩ | ⟨error, herror, hconflict, halike⟩ := h.addOutput hmem
  · have hnext := congrArg (onwardTalk p.info.id removed) hok
    have hinfo : (p.withOutput added).info = p.info := rfl
    have hnow (x : String) := RunningProcess.mem_outputIds_withOutput (p := p) added x
    exact exchangeTalk_goes_on h hne hinfo hnext hbecame ((hnow _).mpr (.inl rfl)) fun x hx =>
      (hnow x).mpr (.inr hx)
  · have hnext := congrArg (onwardTalk p.info.id removed) herror
    rw [onwardTalk] at hnext
    cases hthere : error.isConflict with
    | true =>
      rw [if_pos hthere] at hnext
      exact exchangeTalk_goes_on h hne rfl hnext (h.became halike) (hconflict hthere) fun _ hx => hx
    | false =>
      rw [hthere, if_neg Bool.false_ne_true] at hnext
      have hrun : (exchangeTalk p.info.id added removed).run c =
          (.error (.remote error), (c.perform (.addOutput p.info.id added)).connection) :=
        congrArg (Talk.run · _) hnext
      rw [Comes, hrun]
      exact .inl ⟨_, rfl, halike⟩

theorem swapTalk_comes (hapart : c.remote.Apart) {outgoing incoming : Nat} {o b : Output}
    (ho : ch.outputs[outgoing]? = some o) (hb : ch.outputs[incoming]? = some b)
    (hne : incoming ≠ outgoing) :
    ch.Comes (remoteId b.platform incoming) (remoteId o.platform outgoing)
      (ch.swapTalk outgoing incoming) c := by
  have hadded : ch.processOutput? incoming = some (ch.pushed incoming b) := by
    simp [processOutput?, hb]
  have hremoved : ch.remoteOutputId? outgoing = some (remoteId o.platform outgoing) := by
    simp [remoteOutputId?, ho]
  have hids : (ch.pushed incoming b).id ≠ remoteId o.platform outgoing := fun he =>
    hne (remoteId_injective he).2
  have halike := ch.findProcess_alike c
  have hfind := run_findTalk ch c
  refine Comes.bind ?_ (hfind ▸ halike) fun hbefore =>
    throughout_findTalk hbefore ((OnProcess.of_alike halike _).mpr hbefore)
  rw [hfind]
  rcases hfound : ch.findProcess c with ⟨error | process, c₁⟩
  · exact .inl ⟨error, rfl, .refl _⟩
  · obtain ⟨p, hinfo, hbecame⟩ := owns_of_findProcess
      [remoteId b.platform incoming, remoteId o.platform outgoing] hapart hfound
    have hcomes := exchangeTalk_comes hbecame.owns hids
    rw [hinfo] at hcomes
    simp only [hadded, hremoved]
    exact hcomes

/-! ### Failing over and restoring -/

/-- A failover or a restore that goes ahead, with the position that it takes off the air and the one
that it puts on. -/
inductive Switches {σ : Type} [Service σ] (ch : Channel) (primary : Nat) (c : Connection σ) :
    Outcome σ Unit → Nat → Nat → Prop where
  | failover {backup : Nat} {p b : Output} (hpair : ch.Pair primary backup p b)
      (hidle : p.failoverActive = false) :
      Switches ch primary c (ch.triggerFailover primary c) primary backup
  | restore {backup : Nat} {p b : Output} (hpair : ch.Pair primary backup p b)
      (hactive : p.failoverActive) :
      Switches ch primary c (ch.restorePrimary primary c) backup primary

section

variable {σ : Type} [Service σ] {primary : Nat} {c : Connection σ} {outcome : Outcome σ Unit}
  {outgoing incoming : Nat}

theorem same_or_switches
    (houtcome : outcome ∈ [ch.triggerFailover primary c, ch.restorePrimary primary c]) :
    (outcome.channel = ch ∧ outcome.connection = c) ∨
      ∃ outgoing incoming, ch.Switches primary c outcome outgoing incoming := by
  have hwhich := List.mem_pair.mp houtcome
  cases hp : ch.outputs[primary]? with
  | none =>
    refine .inl ?_
    rcases hwhich with rfl | rfl <;> simp only [triggerFailover, restorePrimary, hp, and_self]
  | some p =>
    cases hindex : ch.backupIndex? primary with
    | none =>
      refine .inl ?_
      rcases hwhich with rfl | rfl <;>
        simp only [triggerFailover, restorePrimary, hp, hindex, and_self]
    | some backup =>
      obtain ⟨b, hpair⟩ := Pair.exists_of_index hp hindex
      rcases hwhich with rfl | rfl <;> cases hflag : p.failoverActive
      · exact .inr ⟨primary, backup, .failover hpair hflag⟩
      · refine .inl ?_
        simp only [triggerFailover, hp, hindex, hflag, if_true, and_self]
      · refine .inl ?_
        simp only [restorePrimary, hp, hindex, hflag, Bool.false_eq_true, if_false, and_self]
      · exact .inr ⟨backup, primary, .restore hpair hflag⟩

theorem Switches.run (h : ch.Switches primary c outcome outgoing incoming)
    (ha : ch.status = .active) :
    (ch.swapTalk outgoing incoming).run c = (outcome.result, outcome.connection) ∧
      ∀ error, outcome.result = .error error → outcome.channel = ch.recordError error := by
  have hswap (outgoing incoming : Nat) : ch.swapIfActive outgoing incoming c =
      (ch.swapTalk outgoing incoming).run c := by
    rw [run_swapTalk, swapIfActive, if_pos ha]
  cases h with
  | failover hpair hidle =>
    simp only [triggerFailover, hpair.atPrimary, hpair.index, hidle, Bool.false_eq_true, if_false,
      hswap]
    rcases (ch.swapTalk _ _).run c with ⟨error | _, c'⟩
    · exact ⟨rfl, fun _ he => congrArg ch.recordError (Except.error.inj he)⟩
    · refine ⟨rfl, fun error he => ?_⟩
      cases he
  | restore hpair hactive =>
    simp only [restorePrimary, hpair.atPrimary, hpair.index, hactive, if_true, hswap]
    rcases (ch.swapTalk _ _).run c with ⟨error | _, c'⟩
    · exact ⟨rfl, fun _ he => congrArg ch.recordError (Except.error.inj he)⟩
    · refine ⟨rfl, fun error he => ?_⟩
      cases he

theorem Switches.outputs (h : ch.Switches primary c outcome outgoing incoming)
    (hl : ch.Linked) :
    incoming ≠ outgoing ∧
      ∃ o b, ch.outputs[outgoing]? = some o ∧ ch.outputs[incoming]? = some b := by
  cases h with
  | failover hpair _ => exact ⟨(hpair.linked hl).1, _, _, hpair.atPrimary, hpair.atBackup⟩
  | restore hpair _ => exact ⟨(hpair.linked hl).1.symm, _, _, hpair.atBackup, hpair.atPrimary⟩

end

/-- A failover or a restore on the air that fails leaves the outputs, the status and the processes
as they were. One that goes through puts the one output on the process before it takes the other
off, and touches no other; if it did not go ahead, it did nothing. -/
theorem switch_makes_before_break {ch : Channel} (ha : ch.status = .active) (hl : ch.Linked)
    {c : Connection Simulated} (hids : (c.remote.processes.map (·.info.id)).Nodup)
    (hreferences : (c.remote.processes.map (·.info.reference)).Nodup) (primary : Nat) :
    (∀ outcome ∈ [ch.triggerFailover primary c, ch.restorePrimary primary c],
      (∀ error, outcome.result = .error error →
        outcome.channel.outputs = ch.outputs ∧ outcome.channel.status = ch.status ∧
          outcome.connection.remote.processes = c.remote.processes) ∧
      ((outcome.channel = ch ∧ outcome.connection = c) ∨
        ∃ outgoing incoming, ch.Switches primary c outcome outgoing incoming)) ∧
    ∀ outcome outgoing incoming, ch.Switches primary c outcome outgoing incoming →
      outcome.result = .ok () →
      ∃ o b, ch.outputs[outgoing]? = some o ∧ ch.outputs[incoming]? = some b ∧
        (ch.swapTalk outgoing incoming).run c = (.ok (), outcome.connection) ∧
        ch.Swaps (remoteId b.platform incoming) (remoteId o.platform outgoing)
          (ch.swapTalk outgoing incoming) c := by
  have hapart : c.remote.Apart := ⟨hids, hreferences⟩
  have comes {outcome outgoing incoming}
      (h : ch.Switches primary c outcome outgoing incoming) :
      ∃ o b, ch.outputs[outgoing]? = some o ∧ ch.outputs[incoming]? = some b ∧
        ch.Comes (remoteId b.platform incoming) (remoteId o.platform outgoing)
          (ch.swapTalk outgoing incoming) c := by
    obtain ⟨hne, o, b, ho, hb⟩ := h.outputs hl
    exact ⟨o, b, ho, hb, swapTalk_comes hapart ho hb hne⟩
  refine ⟨fun outcome houtcome => ?_, fun outcome outgoing incoming h hok => ?_⟩
  · refine ⟨fun error herror => ?_, same_or_switches houtcome⟩
    obtain ⟨hchannel, hconnection⟩ | ⟨outgoing, incoming, h⟩ := same_or_switches houtcome
    · rw [hchannel, hconnection]
      exact ⟨rfl, rfl, rfl⟩
    · obtain ⟨hrun, hfailed⟩ := h.run ha
      obtain ⟨o, b, _, _, hcomes⟩ := comes h
      rw [hfailed error herror]
      rw [Comes, hrun, herror] at hcomes
      obtain ⟨_, _, halike⟩ | ⟨hok, _⟩ := hcomes
      · exact ⟨rfl, rfl, halike.processes⟩
      · cases hok
  · obtain ⟨hrun, _⟩ := h.run ha
    obtain ⟨o, b, ho, hb, hcomes⟩ := comes h
    rw [hok] at hrun
    obtain ⟨error, herror, _⟩ | ⟨_, hswaps⟩ := hcomes
    · rw [hrun] at herror
      cases herror
    · exact ⟨o, b, ho, hb, hrun, hswaps⟩

/-- A connection to a service with one process, which runs with one output. -/
def airing : Connection Simulated where
  session :=
    { settings := { host := "localhost", port := 8080, username := "user", password := "secret" } }
  clock := .startingAt 0
  remote :=
    { username := "user", password := "secret"
      processes :=
        [{ info := { id := "process", reference := "channel", state := ProcessInfo.runningState }
           inputUrl := ""
           outputs := [{ id := "Custom_0", url := "" }] }] }

def pairedOnAir : Channel :=
  { paired airing with status := .active, processReference := some "channel" }

theorem switch_makes_before_break_paired :
    let ch := pairedOnAir
    let outcome := ch.triggerFailover 0 airing
    (ch.status = .active ∧ ch.Linked ∧ (airing.remote.processes.map (·.info.id)).Nodup ∧
      (airing.remote.processes.map (·.info.reference)).Nodup ∧
      ch.Switches 0 airing outcome 0 1 ∧ outcome.result = .ok ()) ∧
    (∃ o b, ch.outputs[0]? = some o ∧ ch.outputs[1]? = some b ∧
      ch.Swaps (remoteId b.platform 1) (remoteId o.platform 0) (ch.swapTalk 0 1) airing) ∧
    outcome.connection.remote.processes.map (·.outputIds) = [["Custom_1"]] := by
  intro ch outcome
  have hlinked : ch.Linked := (paired_reachable airing).linked.of_wiring rfl
  have hnames : (airing.remote.processes.map (·.info.id)).Nodup ∧
      (airing.remote.processes.map (·.info.reference)).Nodup := by decide
  obtain ⟨p, hp⟩ : ∃ p, ch.outputs[0]? = some p := ⟨_, rfl⟩
  obtain ⟨b, hb⟩ : ∃ b, ch.outputs[1]? = some b := ⟨_, rfl⟩
  have hidle : ∀ p, ch.outputs[0]? = some p → p.failoverActive = false := by decide
  have hswitches : ch.Switches 0 airing outcome 0 1 := .failover ⟨hp, by decide, hb⟩ (hidle p hp)
  have hok : outcome.result = .ok () := by decide
  obtain ⟨_, hswapped⟩ := switch_makes_before_break rfl hlinked hnames.1 hnames.2 0
  obtain ⟨o, b, ho, hb, _, hswaps⟩ := hswapped outcome 0 1 hswitches hok
  exact ⟨⟨rfl, hlinked, hnames.1, hnames.2, hswitches, hok⟩, ⟨o, b, ho, hb, hswaps⟩, by decide⟩

end Channel

end Simulcast
