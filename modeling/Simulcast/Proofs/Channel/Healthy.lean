import Simulcast.Proofs.Channel.Repairs
import Simulcast.Proofs.Remote.Passing
import Simulcast.Proofs.Studio.Runs

/-!
# What a health pass says is so

A channel that a pass calls healthy has a running process with all the outputs that the channel
wants on the air. A pass over such a process finds nothing to repair, asks two questions and says
so.
-/

namespace Simulcast.Channel

variable {ch : Channel} {c : Connection Simulated}

theorem allConnected_iff (ch : Channel) :
    ch.allConnected = true ↔
      ∀ (i : Nat) (o : Output), ch.outputs[i]? = some o → o.enabled → o.connected := by
  simp only [allConnected, List.all_eq_true, Bool.or_eq_true, Bool.not_eq_true', ← Bool.not_eq_true,
    ← imp_iff_not_or]
  constructor
  · exact fun h i o ho => h o (List.mem_of_getElem? ho)
  · intro h o ho
    obtain ⟨i, hi⟩ := List.mem_iff_getElem?.mp ho
    exact h i o hi

theorem attached_of_findProcess (hs : c.remote.Apart) {process : ProcessInfo}
    {c' : Connection Simulated} (hf : ch.findProcess c = (.ok process, c')) :
    ch.Attached process.reference process.id c'.remote := by
  have hfound := ch.findProcess_alike c
  rw [hf] at hfound
  obtain ⟨p, hp, rfl, hr⟩ := findProcess_ok hf
  exact ⟨hr, ⟨p, hfound.processes ▸ hp, rfl, rfl⟩,
    hs.of_infos (congrArg (List.map _) hfound.processes)⟩

/-- A pass over the outputs of a running process that says healthy is right. -/
theorem inspectAll_sound {process : ProcessInfo}
    (h : ch.Attached process.reference process.id c.remote)
    (hinfo : ∃ p ∈ c.remote.processes, p.info = process) {present : List String}
    (hpresent : ∀ x ∈ present, c.remote.Carries process.id x) (checkedAt : Nat) {running : Bool}
    (hhealthy : (ch.inspectAll checkedAt running present c).1 = true) :
    ∃ p ∈ (ch.inspectAll checkedAt running present c).2.2.remote.processes, p.info = process ∧
      ∀ x, (ch.inspectAll checkedAt running present c).2.1.Airs x → x ∈ p.outputIds := by
  have hbeyond (i : Nat) (hi : i ∉ List.range ch.outputs.length) :
      TrueAt process.id ch c.remote i := by
    intro o ho
    rw [List.mem_range, Nat.not_lt] at hi
    cases (List.getElem?_eq_none hi).symm.trans ho
  have hseen : ∀ i ∈ List.range ch.outputs.length, ∀ platform, remoteId platform i ∈ present →
      c.remote.Carries process.id (remoteId platform i) := fun i _ platform => hpresent _
  have htrue := inspectEach_true h checkedAt List.nodup_range hseen hbeyond
  obtain ⟨hskeleton, htended⟩ := inspectEach_tended (tending_simulated process.reference)
    h.refersTo present checkedAt (List.range ch.outputs.length) c
  have hafter := h.tended hskeleton htended
  unfold inspectAll at hhealthy ⊢
  generalize inspectEach present checkedAt (List.range ch.outputs.length) ch c = seen
    at htrue htended hafter hhealthy ⊢
  obtain ⟨ch', c'⟩ := seen
  obtain ⟨q, hq, _⟩ := hafter.find?
  have hconnected := (allConnected_iff ch').mp (Bool.and_eq_true_iff.mp hhealthy).2
  refine ⟨q, List.mem_of_find?_eq_some hq, ?_, ?_⟩
  · obtain ⟨p, hp, rfl⟩ := hinfo
    have hsame := Simulated.find?_of_infos p.info.id htended.infos
    rw [hq, Simulated.find?, find?_name h.apart.ids hp] at hsame
    exact Option.some.inj hsame
  · rintro _ ⟨i, o, ho, henabled, rfl⟩
    exact (Simulated.Carries.of_find? hq _).mp
      (htrue i o ho henabled (hconnected i o ho henabled))

theorem healthPass_sound (hs : c.remote.Apart) {now : Instant}
    (hhealthy : (ch.healthPass now c).1 = true) :
    ∃ reference, ch.processReference = some reference ∧
      ∃ p ∈ (ch.healthPass now c).2.2.remote.processes, p.info.reference = reference ∧
        p.info.state = ProcessInfo.runningState ∧
        ∀ x, (ch.healthPass now c).2.1.Airs x → x ∈ p.outputIds := by
  simp only [healthPass] at hhealthy ⊢
  have href : ({ ch with lastCheck := some now } : Channel).processReference =
      ch.processReference := rfl
  generalize ({ ch with lastCheck := some now } : Channel) = noted at href hhealthy ⊢
  cases hf : noted.findProcess c with
  | mk found c₁ =>
    rw [hf] at hhealthy
    cases found with
    | error error => cases hhealthy
    | ok process =>
      have h₁ := attached_of_findProcess hs hf
      have hfound := noted.findProcess_alike c
      rw [hf] at hfound
      obtain ⟨p, hp, hinfo, hr⟩ := findProcess_ok hf
      simp only at hhealthy ⊢
      split_ifs at hhealthy ⊢ with hrunning
      · obtain ⟨q, hq, _⟩ := h₁.find?
        have hresult {present : List String} :
            (c₁.perform (.getOutputs process.id)).result = .ok present → present = q.outputIds :=
          c₁.getOutputs_result hq
        have hlisted := c₁.getOutputs_served process.id
        generalize c₁.perform (.getOutputs process.id) = listed at hresult hlisted hhealthy ⊢
        obtain ⟨error | present, c₂⟩ := listed
        · cases hhealthy
        · have h₂ := h₁.tended rfl (.of_alike hlisted)
          obtain rfl := hresult rfl
          obtain ⟨p', hp', hinfo', houtputs⟩ := inspectAll_sound h₂
            ⟨p, by rw [hlisted.processes, hfound.processes]; exact hp, hinfo⟩
            (fun x hx => (hlisted.carries _ x).mpr ((Simulated.Carries.of_find? hq x).mpr hx))
            now.unix hhealthy
          refine ⟨process.reference, href ▸ hr, p', hp', by rw [hinfo'], ?_, houtputs⟩
          rw [hinfo']
          exact beq_iff_eq.mp hrunning
      · simp [inspectAll] at hhealthy

/-! ### Nothing to repair -/

def seenAt (checkedAt : Nat) (o : Output) : Output :=
  if o.enabled then { o with lastCheck := some checkedAt }.markConnected else o

section

variable {σ : Type} [Service σ]

theorem inspectOutput_present {present : List String} (checkedAt : Nat) {index : Nat}
    (h : ∀ o, ch.outputs[index]? = some o → o.enabled → remoteId o.platform index ∈ present)
    (c : Connection σ) :
    inspectOutput present checkedAt index ch c = (ch.changeOutput index (seenAt checkedAt), c) := by
  unfold inspectOutput
  cases ho : ch.outputs[index]? with
  | none =>
    have hself : ch.changeOutput index (seenAt checkedAt) = ch :=
      changeOutput_eq_self fun o ho' => nomatch ho.symm.trans ho'
    simp only [hself]
  | some o =>
    by_cases henabled : o.enabled
    · have hsame :
          ch.changeOutput index (fun o => { o with lastCheck := some checkedAt }.markConnected) =
            ch.changeOutput index (seenAt checkedAt) :=
        changeOutput_congr fun o' ho' => by
          obtain rfl : o = o' := Option.some.inj (ho.symm.trans ho')
          exact (if_pos henabled).symm
      simp only [if_pos henabled, if_pos (h o ho henabled), hsame]
    · have hself : ch.changeOutput index (seenAt checkedAt) = ch :=
        changeOutput_eq_self fun o' ho' => by
          obtain rfl : o = o' := Option.some.inj (ho.symm.trans ho')
          exact if_neg henabled
      simp only [if_neg henabled, hself]

/-- A pass that misses nothing asks the service nothing more. -/
theorem inspectEach_present {present : List String} (checkedAt : Nat) {indices : List Nat}
    (hnodup : indices.Nodup)
    (h : ∀ i ∈ indices, ∀ o, ch.outputs[i]? = some o → o.enabled → remoteId o.platform i ∈ present)
    (c : Connection σ) :
    inspectEach present checkedAt indices ch c = (changeEach (seenAt checkedAt) ch indices, c) := by
  induction indices generalizing ch with
  | nil => rfl
  | cons index rest ih =>
    obtain ⟨hnotin, hnodup⟩ := List.nodup_cons.mp hnodup
    have hfirst := inspectOutput_present checkedAt (h index List.mem_cons_self) c
    simp only [inspectEach, hfirst]
    refine ih hnodup fun i hi o ho => ?_
    have hne : i ≠ index := fun he => hnotin (he ▸ hi)
    rw [getElem?_changeOutput_ne ch _ hne] at ho
    exact h i (List.mem_cons_of_mem _ hi) o ho

theorem inspectAll_present {present : List String} (checkedAt : Nat) (running : Bool)
    (h : ∀ x, ch.Airs x → x ∈ present) (c : Connection σ) :
    ch.inspectAll checkedAt running present c =
      (running, changeEach (seenAt checkedAt) ch (List.range ch.outputs.length), c) := by
  have hall : (changeEach (seenAt checkedAt) ch (List.range ch.outputs.length)).allConnected := by
    refine (allConnected_iff _).mpr fun i o ho henabled => ?_
    rw [getElem?_changeEach List.nodup_range] at ho
    split_ifs at ho with hi
    · obtain ⟨o', _, rfl⟩ := Option.map_eq_some_iff.mp ho
      unfold seenAt at henabled ⊢
      split_ifs at henabled ⊢ with he
      · rfl
      · exact (he henabled).elim
    · rw [List.mem_range, Nat.not_lt] at hi
      cases (List.getElem?_eq_none hi).symm.trans ho
  unfold inspectAll
  rw [inspectEach_present checkedAt List.nodup_range
    (fun i _ o ho henabled => h _ ⟨i, o, ho, henabled, rfl⟩) c]
  simp only [hall, Bool.and_true]

end

/-- A pass over a running process that carries all that the channel wants on the air looks the
process up, lists its outputs and does nothing else to the connection. -/
theorem healthPass_present (hs : c.remote.Apart) {p : RunningProcess}
    (hp : p ∈ c.remote.processes) (href : ch.processReference = some p.info.reference)
    (hrunning : p.info.state = ProcessInfo.runningState)
    (hcarried : ∀ x, ch.Airs x → x ∈ p.outputIds)
    (hfind : (c.findProcess p.info.reference).result.isOk = true)
    (hlist : ((c.findProcess p.info.reference).connection.perform
      (.getOutputs p.info.id)).result.isOk = true) (now : Instant) :
    ch.healthPass now c =
      (true, changeEach (seenAt now.unix) { ch with lastCheck := some now }
          (List.range ch.outputs.length),
        ((c.findProcess p.info.reference).connection.perform
          (.getOutputs p.info.id)).connection) := by
  have hfirst : c.remote.findReference? p.info.reference = some p :=
    find?_name hs.references hp
  have hserved := c.findProcess_served p.info.reference
  simp only [healthPass]
  have href' : ({ ch with lastCheck := some now } : Channel).processReference =
      some p.info.reference := href
  have hcarried' : ∀ x, ({ ch with lastCheck := some now } : Channel).Airs x → x ∈ p.outputIds :=
    hcarried
  have hlength : ({ ch with lastCheck := some now } : Channel).outputs.length =
      ch.outputs.length := rfl
  generalize ({ ch with lastCheck := some now } : Channel) = noted at href' hcarried' hlength ⊢
  simp only [findProcess, href']
  generalize c.findProcess p.info.reference = found at hserved hfind hlist ⊢
  obtain ⟨error | found, c₁⟩ := found
  · cases hfind
  · obtain ⟨halike, hfound⟩ := hserved
    obtain rfl : found = some p.info := by rw [hfound _ rfl, hfirst]; rfl
    have hp₁ : c₁.remote.find? p.info.id = some p :=
      (halike.find? _).trans (find?_name hs.ids hp)
    have hresult {present : List String} :
        (c₁.perform (.getOutputs p.info.id)).result = .ok present → present = p.outputIds :=
      c₁.getOutputs_result hp₁
    simp only [ProcessInfo.isRunning, hrunning, beq_self_eq_true, if_true] at hlist hresult ⊢
    generalize c₁.perform (.getOutputs p.info.id) = listed at hlist hresult ⊢
    obtain ⟨error | present, c₂⟩ := listed
    · cases hlist
    · obtain rfl := hresult rfl
      simp only
      rw [inspectAll_present now.unix true hcarried' c₂, hlength]

/-- An active, monitored channel that a pass calls healthy has a running process, which carries all
that the channel wants on the air after the pass. If it has one to begin with, and the two requests
by which the pass finds out succeed, then the pass says so, and neither repairs nor waits. -/
theorem healthy_verdict {ch : Channel} {c : Connection Simulated} (ha : ch.status = .active)
    (hm : ch.health.enabled = true)
    (hids : (c.remote.processes.map (·.info.id)).Nodup)
    (hreferences : (c.remote.processes.map (·.info.reference)).Nodup) :
    let pass := ch.checkHealth c
    (pass.1 = true → ∃ reference, ch.processReference = some reference ∧
      ∃ p ∈ pass.2.2.remote.processes, p.info.reference = reference ∧
        p.info.state = ProcessInfo.runningState ∧ ∀ x, pass.2.1.Airs x → x ∈ p.outputIds) ∧
    ∀ p ∈ c.remote.processes, ch.processReference = some p.info.reference →
      p.info.state = ProcessInfo.runningState → (∀ x, ch.Airs x → x ∈ p.outputIds) →
      (c.findProcess p.info.reference).result.isOk = true →
      ((c.findProcess p.info.reference).connection.perform
        (.getOutputs p.info.id)).result.isOk = true →
      pass.1 = true ∧
        pass.2.2.remote.calls .addOutput = c.remote.calls .addOutput ∧
        pass.2.2.remote.calls .removeOutput = c.remote.calls .removeOutput ∧
        pass.2.2.clock = c.clock := by
  intro pass
  have hs : c.remote.Apart := ⟨hids, hreferences⟩
  have hpass : pass = ch.healthPass c.now c := if_pos ⟨ha, hm⟩
  rw [hpass]
  refine ⟨healthPass_sound hs, fun p hp href hrunning hcarried hfind hlist => ?_⟩
  rw [healthPass_present hs hp href hrunning hcarried hfind hlist c.now]
  have uncounted (kind : CallKind) (hkind : kind ≠ .login ∧ kind ≠ .refresh ∧
      kind ≠ .listProcesses ∧ kind ≠ .getOutputs) :
      ((c.findProcess p.info.reference).connection.perform
        (.getOutputs p.info.id)).connection.remote.calls kind = c.remote.calls kind :=
    (Connection.perform_calls _ (.getOutputs p.info.id) ⟨hkind.1, hkind.2.1, hkind.2.2.2⟩).trans
      (c.findProcess_calls _ ⟨hkind.1, hkind.2.1, hkind.2.2.1⟩)
  refine ⟨rfl, uncounted .addOutput (by decide), uncounted .removeOutput (by decide), ?_⟩
  simp only
  rw [Connection.perform_clock, Connection.findProcess_clock]

def monitored : Studio Simulated :=
  [.createChannel "channel" "", .onChannel "channel" (.addOutput .custom "key" .auto {}),
    .onChannel "channel" (.setHealthMonitoring true {}), .onChannel "channel" .start].foldl
      (fun s (op : Studio.Operation) => (op.run s).studio) Studio.opened

theorem healthy_verdict_monitored :
    let c := monitored.connection
    ∀ ch ∈ monitored.channels, ∀ p ∈ c.remote.processes,
      (ch.status = .active ∧ ch.health.enabled = true ∧
        (c.remote.processes.map (·.info.id)).Nodup ∧
        (c.remote.processes.map (·.info.reference)).Nodup ∧ ∀ x, ch.Airs x → x ∈ p.outputIds) ∧
      (∃ reference, ch.processReference = some reference ∧
        ∃ q ∈ (ch.checkHealth c).2.2.remote.processes, q.info.reference = reference ∧
          q.info.state = ProcessInfo.runningState ∧
          ∀ x, (ch.checkHealth c).2.1.Airs x → x ∈ q.outputIds) ∧
      (ch.checkHealth c).1 = true ∧
        (ch.checkHealth c).2.2.remote.calls .addOutput = c.remote.calls .addOutput ∧
        (ch.checkHealth c).2.2.remote.calls .removeOutput = c.remote.calls .removeOutput ∧
        (ch.checkHealth c).2.2.clock = c.clock := by
  intro c ch hch p hp
  have hids : (c.remote.processes.map (·.info.id)).Nodup := by decide
  have hreferences : (c.remote.processes.map (·.info.reference)).Nodup := by decide
  have hchannels : ∀ ch ∈ monitored.channels, ch.status = .active ∧ ch.health.enabled = true ∧
      (ch.checkHealth c).1 = true ∧ ∀ p ∈ c.remote.processes,
        ch.processReference = some p.info.reference ∧
          p.info.state = ProcessInfo.runningState ∧
          (∀ x ∈ ch.enabledOutputs.map (·.id), x ∈ p.outputIds) ∧
          (c.findProcess p.info.reference).result.isOk = true ∧
          ((c.findProcess p.info.reference).connection.perform
            (.getOutputs p.info.id)).result.isOk = true := by decide
  obtain ⟨ha, hm, hhealthy, hprocesses⟩ := hchannels ch hch
  obtain ⟨href, hrunning, hlisted, hfind, hlist⟩ := hprocesses p hp
  have hcarried : ∀ x, ch.Airs x → x ∈ p.outputIds := fun x hx =>
    hlisted x ((ch.airs_iff_enabledOutputs x).mp hx)
  obtain ⟨hsound, hcomplete⟩ := healthy_verdict ha hm hids hreferences
  exact ⟨⟨ha, hm, hids, hreferences, hcarried⟩, hsound hhealthy,
    hcomplete p hp href hrunning hcarried hfind hlist⟩

end Simulcast.Channel
