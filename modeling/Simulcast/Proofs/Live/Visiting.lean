import Simulcast.Channel.Live
import Simulcast.Proofs.Channel.Looking

/-!
# Visiting outputs on the air

To start or stop outputs on the air their positions are visited one after the other. A visit finds
that there is nothing to do, or turns the position away, or makes one request. So the failures that
are counted in the end are the positions that are turned away and the requests that fail.
-/

namespace Simulcast

namespace Exchange

/-- The request failed, unless what it was about to add was there already, or what it was about to
remove was not there. -/
def wentWrong : Exchange → Bool
  | ⟨.addOutput _ _, .error error⟩ => !error.isConflict
  | ⟨.removeOutput _ _, .error error⟩ => !error.isNotFound
  | _ => false

end Exchange

/-- What is done to outputs of a channel that is on the air. -/
inductive LiveChange where
  | start
  | stop

namespace LiveChange

variable {σ : Type} [Service σ]

def operation : LiveChange → String
  | .start => "start outputs"
  | .stop => "stop outputs"

def step : LiveChange → String → Nat → Channel → Connection σ → Bool × Channel × Connection σ
  | .start => Channel.startOutput
  | .stop => Channel.stopOutput

def bulk : LiveChange → Channel → List Nat → Connection σ → Channel.Outcome σ Unit
  | .start => Channel.bulkStartOutputs
  | .stop => Channel.bulkStopOutputs

theorem bulk_eq (change : LiveChange) (ch : Channel) (indices : List Nat) (c : Connection σ) :
    change.bulk ch indices c = Channel.bulkLive change.operation change.step ch indices c := by
  cases change <;> rfl

/-- There is something to do about the output. -/
def wants : LiveChange → Output → Bool
  | .start, o => !o.enabled && !o.isBackup
  | .stop, o => o.enabled

def turnsAway : LiveChange → Output → Bool
  | .start, o => !o.enabled && o.isBackup
  | .stop, _ => false

/-- The position fails without a request: there is no output, or none that may be started. -/
def refuses (change : LiveChange) (ch : Channel) (index : Nat) : Bool :=
  ch.outputs[index]?.all change.turnsAway

def request : LiveChange → String → Channel → Nat → Output → Request
  | .start, id, ch, index, o => .addOutput id (ch.pushed index o)
  | .stop, id, _, index, o => .removeOutput id (Channel.remoteId o.platform index)

def request? (change : LiveChange) (id : String) (ch : Channel) (index : Nat) : Option Request :=
  ch.outputs[index]?.map (change.request id ch index)

def changed : LiveChange → Output → Output
  | .start, o => { o with enabled := true }.markConnected
  | .stop, o => { o with enabled := false, connected := false }

def tolerates : LiveChange → RemoteError → Bool
  | .start, error => error.isConflict
  | .stop, error => error.isNotFound

def settle {α : Type} (change : LiveChange) (ch : Channel) (index : Nat) :
    Except RemoteError α → Bool × Channel
  | .ok _ => (false, ch.changeOutput index change.changed)
  | .error error =>
    if change.tolerates error then (false, ch.changeOutput index change.changed)
    else (true, ch.recordError (.remote error))

variable {change : LiveChange} {id : String} {index : Nat} {ch : Channel} {o : Output}
  {c : Connection σ}

/-! ### One visit -/

theorem settle_tolerated {α : Type} (change : LiveChange) {error : RemoteError}
    (h : change.tolerates error) :
    change.settle ch index (.error error : Except RemoteError α) =
      (false, ch.changeOutput index change.changed) := if_pos h

theorem settle_failed {α : Type} (change : LiveChange) {error : RemoteError}
    (h : ¬ change.tolerates error) :
    change.settle ch index (.error error : Except RemoteError α) =
      (true, ch.recordError (.remote error)) := if_neg h

theorem settle_cases {α : Type} (change : LiveChange) (ch : Channel) (index : Nat)
    (answer : Except RemoteError α) :
    change.settle ch index answer = (false, ch.changeOutput index change.changed) ∨
      ∃ error, change.settle ch index answer = (true, ch.recordError (.remote error)) := by
  obtain error | _ := answer
  · by_cases htolerated : change.tolerates error
    · exact .inl (settle_tolerated change htolerated)
    · exact .inr ⟨error, settle_failed change htolerated⟩
  · exact .inl rfl

/-- There is nothing to do at the position. -/
def Idle (change : LiveChange) (ch : Channel) (index : Nat) : Prop :=
  ∀ o, ch.outputs[index]? = some o → change.wants o = false

theorem idle_or_wants (change : LiveChange) (ch : Channel) (index : Nat) :
    change.Idle ch index ∨ ∃ o, ch.outputs[index]? = some o ∧ change.wants o = true := by
  by_cases h : ∃ o, ch.outputs[index]? = some o ∧ change.wants o = true
  · exact .inr h
  · exact .inl fun o ho => Bool.eq_false_iff.mpr fun hw => h ⟨o, ho, hw⟩

theorem step_idle (h : change.Idle ch index) :
    change.step id index ch c = (change.refuses ch index, ch, c) := by
  cases ho : ch.outputs[index]? with
  | none =>
    rw [refuses, ho]
    cases change <;> simp only [step, Channel.startOutput, Channel.stopOutput, ho, Option.all_none]
  | some o =>
    have hw := h o ho
    rw [refuses, ho, Option.all_some]
    cases change with
    | start =>
      simp only [step, Channel.startOutput, ho]
      cases henabled : o.enabled <;> cases hbackup : o.isBackup <;> simp_all [wants, turnsAway]
    | stop =>
      have hdisabled : o.enabled = false := hw
      simp only [step, Channel.stopOutput, ho, hdisabled, turnsAway, Bool.false_eq_true, if_false]

theorem step_asks (ho : ch.outputs[index]? = some o) (hw : change.wants o = true) :
    let asked := c.perform (change.request id ch index o)
    change.step id index ch c =
      ((change.settle ch index asked.result).1, (change.settle ch index asked.result).2,
        asked.connection) := by
  cases change with
  | start =>
    obtain ⟨hdisabled, hbackup⟩ := Bool.and_eq_true_iff.mp hw
    rw [Bool.not_eq_true'] at hdisabled hbackup
    simp only [step, Channel.startOutput, ho, hdisabled, hbackup, Bool.false_eq_true, if_false,
      request]
    generalize c.perform (.addOutput id (ch.pushed index o)) = asked
    obtain ⟨error | _, c'⟩ := asked
    · by_cases htolerated : error.isConflict
      · simp only [settle_tolerated .start htolerated, if_pos htolerated]
        rfl
      · simp only [settle_failed .start htolerated, if_neg htolerated]
    · rfl
  | stop =>
    have henabled : o.enabled = true := hw
    simp only [step, Channel.stopOutput, ho, henabled, if_true, request]
    generalize c.perform (.removeOutput id (Channel.remoteId o.platform index)) = asked
    obtain ⟨error | _, c'⟩ := asked
    · by_cases htolerated : error.isNotFound
      · simp only [settle_tolerated .stop htolerated, if_pos htolerated]
        rfl
      · simp only [settle_failed .stop htolerated, if_neg htolerated]
    · rfl

def talk (change : LiveChange) (id : String) (index : Nat) (ch : Channel) : Talk (Bool × Channel) :=
  match ch.outputs[index]? with
  | none => .done (true, ch)
  | some o =>
    if change.wants o then
      .ask (change.request id ch index o) fun answer => .done (change.settle ch index answer)
    else .done (change.turnsAway o, ch)

theorem talk_idle (h : change.Idle ch index) :
    change.talk id index ch = .done (change.refuses ch index, ch) := by
  cases ho : ch.outputs[index]? with
  | none => simp only [talk, refuses, ho, Option.all_none]
  | some o =>
    simp only [talk, refuses, ho, h o ho, Bool.false_eq_true, if_false, Option.all_some]

theorem talk_asks (ho : ch.outputs[index]? = some o) (hw : change.wants o = true) :
    change.talk id index ch =
      .ask (change.request id ch index o) fun answer => .done (change.settle ch index answer) := by
  simp only [talk, ho, hw, if_true]

theorem run_talk (change : LiveChange) (id : String) (index : Nat) (ch : Channel)
    (c : Connection σ) :
    (change.talk id index ch).run c =
      (((change.step id index ch c).1, (change.step id index ch c).2.1),
        (change.step id index ch c).2.2) := by
  obtain h | ⟨o, ho, hw⟩ := change.idle_or_wants ch index
  · rw [step_idle h, talk_idle h, Talk.run]
  · rw [step_asks ho hw, talk_asks ho hw, Talk.run, Talk.run]

/-! ### Counting the failures -/

theorem settle_fst (change : LiveChange) (id : String) (ch : Channel) (index : Nat) (o : Output)
    (answer : Except RemoteError (change.request id ch index o).Answer) :
    (change.settle ch index answer).1 =
      Exchange.wentWrong ⟨change.request id ch index o, answer⟩ := by
  obtain error | _ := answer
  · by_cases htolerated : change.tolerates error
    · rw [settle_tolerated change htolerated]
      cases change <;> exact (congrArg Bool.not htolerated).symm
    · rw [settle_failed change htolerated]
      rw [Bool.not_eq_true] at htolerated
      cases change <;> exact (congrArg Bool.not htolerated).symm
  · cases change <;> rfl

theorem turnsAway_of_wants (hw : change.wants o = true) : change.turnsAway o = false := by
  cases change with
  | start =>
    obtain ⟨_, hbackup⟩ := Bool.and_eq_true_iff.mp hw
    rw [Bool.not_eq_true'] at hbackup
    simp only [turnsAway, hbackup, Bool.and_false]
  | stop => rfl

theorem turnsAway_changed (hw : change.wants o = true) :
    change.turnsAway (change.changed o) = change.turnsAway o := by
  rw [turnsAway_of_wants hw]
  cases change <;> rfl

/-- A visit fails when it is turned away or its request fails. -/
theorem step_fails (change : LiveChange) (id : String) (index : Nat) (ch : Channel)
    (c : Connection σ) :
    (change.step id index ch c).1 =
      (change.refuses ch index ||
        ((change.talk id index ch).exchanges c).any Exchange.wentWrong) := by
  obtain h | ⟨o, ho, hw⟩ := change.idle_or_wants ch index
  · rw [step_idle h, talk_idle h, Talk.exchanges, List.any_nil, Bool.or_false]
  · rw [step_asks ho hw, talk_asks ho hw, refuses, ho, Option.all_some, turnsAway_of_wants hw,
      Bool.false_or, Talk.exchanges, Talk.exchanges, List.any_cons, List.any_nil, Bool.or_false]
    exact settle_fst change id ch index o _

theorem settle_within {α : Type} (change : LiveChange) (ch : Channel) (index : Nat)
    (answer : Except RemoteError α) :
    Channel.Within [index] ch (change.settle ch index answer).2 := by
  obtain hsettled | ⟨error, hsettled⟩ := change.settle_cases ch index answer
  · rw [hsettled]
    exact .changeOutput ch index _
  · rw [hsettled]
    exact (Channel.Within.refl _ ch).recordError _

theorem step_within (change : LiveChange) (id : String) (index : Nat) (ch : Channel)
    (c : Connection σ) : Channel.Within [index] ch (change.step id index ch c).2.1 := by
  obtain h | ⟨o, ho, hw⟩ := change.idle_or_wants ch index
  · rw [step_idle h]
    exact .refl _ ch
  · rw [step_asks ho hw]
    exact settle_within change ch index _

/-- A change at a position that there was something to do about makes no difference to what is
turned away, or to what is requested. -/
theorem changed_same (change : LiveChange) (ho : ch.outputs[index]? = some o)
    (hw : change.wants o = true) :
    change.refuses (ch.changeOutput index change.changed) = change.refuses ch ∧
      ∀ id, change.request? id (ch.changeOutput index change.changed) = change.request? id ch := by
  have hat := Channel.getElem?_changeOutput_eq ho change.changed
  refine ⟨funext fun i => ?_, fun id => funext fun i => ?_⟩
  · by_cases hi : i = index
    · subst hi
      simpa only [refuses, hat, ho, Option.all_some] using turnsAway_changed hw
    · rw [refuses, refuses, Channel.getElem?_changeOutput_ne ch _ hi]
  · by_cases hi : i = index
    · subst hi
      simp only [request?, hat, ho, Option.map_some]
      cases change <;> rfl
    · rw [request?, request?, Channel.getElem?_changeOutput_ne ch _ hi]
      cases change <;> rfl

/-- What decides about a visit to any position does not change along the visits. -/
theorem step_same (change : LiveChange) (id : String) (index : Nat) (ch : Channel)
    (c : Connection σ) :
    change.refuses (change.step id index ch c).2.1 = change.refuses ch ∧
      ∀ id', change.request? id' (change.step id index ch c).2.1 = change.request? id' ch := by
  obtain h | ⟨o, ho, hw⟩ := change.idle_or_wants ch index
  · rw [step_idle h]
    exact ⟨rfl, fun _ => rfl⟩
  · rw [step_asks ho hw]
    obtain hsettled | ⟨error, hsettled⟩ := change.settle_cases ch index
      (c.perform (change.request id ch index o)).result
    · rw [hsettled]
      exact changed_same change ho hw
    · rw [hsettled]
      exact ⟨rfl, fun id' => by cases change <;> rfl⟩

/-! ### All visits -/

/-- A visit to a position, with the requests that were made there. -/
structure Visit where
  index : Nat
  calls : List Exchange

/-- The visits to these positions, one after the other. -/
def visits (change : LiveChange) (id : String) : List Nat → Channel → Connection σ → List Visit
  | [], _, _ => []
  | index :: rest, ch, c =>
    ⟨index, (change.talk id index ch).exchanges c⟩ ::
      change.visits id rest (change.step id index ch c).2.1 (change.step id index ch c).2.2

def failed (change : LiveChange) (ch : Channel) (v : Visit) : Bool :=
  change.refuses ch v.index || v.calls.any Exchange.wentWrong

variable (id) (indices : List Nat) (ch) (c)

theorem map_index_visits : (change.visits id indices ch c).map (·.index) = indices := by
  induction indices generalizing ch c with
  | nil => rfl
  | cons index rest ih => exact congrArg (List.cons index) (ih _ _)

/-- What is counted in the end is the visits that failed. -/
theorem tally_eq_countP :
    (Channel.tally (change.step id) indices ch c).1 =
      (change.visits id indices ch c).countP (change.failed ch) := by
  induction indices generalizing ch c with
  | nil => rfl
  | cons index rest ih =>
    have hrest := ih (change.step id index ch c).2.1 (change.step id index ch c).2.2
    have hsame : change.failed (change.step id index ch c).2.1 = change.failed ch :=
      funext fun v => by rw [failed, failed, (change.step_same id index ch c).1]
    rw [hsame] at hrest
    have hfails := change.step_fails id index ch c
    rw [visits, List.countP_cons, ← hrest, failed, ← hfails, Channel.tally]
    generalize change.step id index ch c = stepped
    obtain ⟨_ | _, _, _⟩ := stepped <;> rfl

theorem request_of_mem_visits {v : Visit} (hv : v ∈ change.visits id indices ch c) {e : Exchange}
    (he : e ∈ v.calls) : change.request? id ch v.index = some e.request := by
  induction indices generalizing ch c with
  | nil => cases hv
  | cons index rest ih =>
    obtain rfl | hv := List.mem_cons.mp hv
    · obtain h | ⟨o, ho, hw⟩ := change.idle_or_wants ch index
      · simp only [talk_idle h, Talk.exchanges, List.not_mem_nil] at he
      · simp only [talk_asks ho hw, Talk.exchanges, List.mem_singleton] at he
        rw [he, request?, ho]
        rfl
    · rw [← (change.step_same id index ch c).2 id]
      exact ih _ _ hv

theorem tally_within :
    Channel.Within indices ch (Channel.tally (change.step id) indices ch c).2.1 := by
  induction indices generalizing ch c with
  | nil => exact .refl _ ch
  | cons index rest ih =>
    exact ((change.step_within id index ch c).mono (by simp)).trans
      ((ih _ _).mono (List.subset_cons_self index rest))

/-! ### The whole change as a conversation -/

def tallyTalk (change : LiveChange) (id : String) : List Nat → Channel → Talk (Nat × Channel)
  | [], ch => .done (0, ch)
  | index :: rest, ch =>
    (change.talk id index ch).bind fun (failed, ch) =>
      (change.tallyTalk id rest ch).bind fun (n, ch) => .done (n + failed.toNat, ch)

theorem run_tallyTalk :
    (change.tallyTalk id indices ch).run c =
      (((Channel.tally (change.step id) indices ch c).1,
        (Channel.tally (change.step id) indices ch c).2.1),
        (Channel.tally (change.step id) indices ch c).2.2) := by
  induction indices generalizing ch c with
  | nil => rfl
  | cons index rest ih =>
    rw [tallyTalk, Talk.run_bind, run_talk]
    simp only
    rw [Talk.run_bind, ih]
    rfl

theorem exchanges_tallyTalk :
    (change.tallyTalk id indices ch).exchanges c =
      (change.visits id indices ch c).flatMap (·.calls) := by
  induction indices generalizing ch c with
  | nil => rfl
  | cons index rest ih =>
    rw [tallyTalk, Talk.exchanges_bind, run_talk]
    simp only
    rw [Talk.exchanges_bind, ih, Talk.exchanges, List.append_nil, visits, List.flatMap_cons]

def bulkTalk (change : LiveChange) (ch : Channel) (indices : List Nat) :
    Talk (Except ChannelError Unit × Channel) :=
  if ch.status ≠ .active then .done (.error (.invalidState change.operation ch.status), ch)
  else
    ch.findTalk.bind fun
      | .error error => .done (.error error, ch.recordError error)
      | .ok process =>
        (change.tallyTalk process.id indices ch).bind fun (failed, ch) =>
          .done (Channel.bulkResult failed indices.length, ch)

theorem run_bulkTalk :
    (change.bulkTalk ch indices).run c =
      (((change.bulk ch indices c).result, (change.bulk ch indices c).channel),
        (change.bulk ch indices c).connection) := by
  rw [bulk_eq, bulkTalk, Channel.bulkLive]
  split_ifs
  · rfl
  · rw [Talk.run_bind, Channel.run_findTalk]
    obtain ⟨error | process, c'⟩ := ch.findProcess c
    · rfl
    · simp only
      rw [Talk.run_bind, run_tallyTalk]
      rfl

variable {ch} {c} {indices} {process : ProcessInfo} {error : ChannelError} {c' : Connection σ}

theorem bulk_unfound (ha : ch.status = .active) (hfound : ch.findProcess c = (.error error, c')) :
    change.bulk ch indices c = ⟨.error error, ch.recordError error, c'⟩ := by
  rw [bulk_eq, Channel.bulkLive, if_neg (not_not_intro ha), hfound]

theorem bulk_found (ha : ch.status = .active) (hfound : ch.findProcess c = (.ok process, c')) :
    let tallied := Channel.tally (change.step process.id) indices ch c'
    change.bulk ch indices c =
      ⟨Channel.bulkResult tallied.1 indices.length, tallied.2.1, tallied.2.2⟩ := by
  rw [bulk_eq, Channel.bulkLive, if_neg (not_not_intro ha), hfound]

/-- The requests are the lookup and those of the visits, in this order. -/
theorem exchanges_bulkTalk (ha : ch.status = .active)
    (hfound : ch.findProcess c = (.ok process, c')) :
    (change.bulkTalk ch indices).exchanges c =
      ch.findTalk.exchanges c ++ (change.visits process.id indices ch c').flatMap (·.calls) := by
  rw [bulkTalk, if_neg (not_not_intro ha), Talk.exchanges_bind, Channel.run_findTalk, hfound]
  simp only
  rw [Talk.exchanges_bind, exchanges_tallyTalk, Talk.exchanges, List.append_nil]

end LiveChange

end Simulcast
