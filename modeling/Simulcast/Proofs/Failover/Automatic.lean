import Simulcast.Proofs.Channel.Looking
import Simulcast.Proofs.Failover.Moving
import Simulcast.Proofs.Failover.Swapping

/-!
# All failovers of a check

A check picks the primaries that are to be failed over and then fails over one after the other. A
primary that is picked is no backup, and has its backup to itself, so no two of these failovers
touch the same output: each succeeds or fails by itself, and what one of them did the others leave.
-/

namespace Simulcast

namespace Output

/-- A primary that is to be failed over when it was missed this often. -/
structure Overdue (times : Nat) (o : Output) : Prop where
  backed : o.backup ≠ none
  root : o.primary = none
  idle : o.failoverActive = false
  disconnected : o.connected = false
  missed : times ≤ o.failures

end Output

namespace Channel

variable {ch ch' : Channel} {index primary backup : Nat} {indices : List Nat}

/-! ### Picking the primaries -/

theorem needsFailover_iff (times : Nat) (o : Output) : needsFailover times o ↔ o.Overdue times := by
  simp only [needsFailover, Output.isBackup, Bool.and_eq_true, Bool.not_eq_true',
    Option.isSome_eq_false_iff, Option.isNone_iff_eq_none, decide_eq_true_eq,
    ← Option.ne_none_iff_isSome]
  constructor
  · rintro ⟨⟨⟨⟨hbacked, hroot⟩, hidle⟩, hdisconnected⟩, hmissed⟩
    exact ⟨hbacked, hroot, hidle, hdisconnected, hmissed⟩
  · rintro ⟨hbacked, hroot, hidle, hdisconnected, hmissed⟩
    exact ⟨⟨⟨⟨hbacked, hroot⟩, hidle⟩, hdisconnected⟩, hmissed⟩

theorem mem_failoverCandidates :
    index ∈ ch.failoverCandidates ↔
      ∃ o, ch.outputs[index]? = some o ∧ o.Overdue (max ch.health.threshold 1) := by
  rw [failoverCandidates, List.mem_filter, List.mem_range]
  constructor
  · rintro ⟨hlt, hneeds⟩
    rw [List.getElem?_eq_getElem hlt] at hneeds ⊢
    exact ⟨_, rfl, (needsFailover_iff _ _).mp hneeds⟩
  · rintro ⟨o, ho, hoverdue⟩
    refine ⟨(List.getElem?_eq_some_iff.mp ho).1, ?_⟩
    rw [ho]
    exact (needsFailover_iff _ _).mpr hoverdue

theorem nodup_failoverCandidates (ch : Channel) : ch.failoverCandidates.Nodup :=
  List.nodup_range.filter _

def FailedOver (ch : Channel) (index : Nat) : Bool := ch.outputs[index]?.any (·.failoverActive)

theorem idle_of_candidate (h : index ∈ ch.failoverCandidates) : ch.FailedOver index = false := by
  obtain ⟨o, ho, hoverdue⟩ := mem_failoverCandidates.mp h
  rw [FailedOver, ho]
  exact hoverdue.idle

/-! ### No two touch the same output -/

/-- The positions along with those of the backups there. -/
def withBackups (ch : Channel) (indices : List Nat) : List Nat :=
  indices ++ indices.filterMap ch.backupIndex?

theorem notMem_withBackups :
    index ∉ ch.withBackups indices ↔
      index ∉ indices ∧ ∀ i ∈ indices, ch.backupIndex? i ≠ some index := by
  simp only [withBackups, List.mem_append, List.mem_filterMap, not_or, not_exists, not_and, ne_eq]

theorem withBackups_of_wiring (hw : ch'.wiring = ch.wiring) (indices : List Nat) :
    ch'.withBackups indices = ch.withBackups indices := by
  have hindex : ch'.backupIndex? = ch.backupIndex? := funext (backupIndex?_of_wiring hw)
  rw [withBackups, withBackups, hindex]

theorem withBackups_mono {more : List Nat} (hsub : indices ⊆ more) :
    ch.withBackups indices ⊆ ch.withBackups more := by
  intro i hi
  rcases List.mem_append.mp hi with hi | hi
  · exact List.mem_append_left _ (hsub hi)
  · obtain ⟨j, hj, hbackup⟩ := List.mem_filterMap.mp hi
    exact List.mem_append_right _ (List.mem_filterMap.mpr ⟨j, hsub hj, hbackup⟩)

theorem Pair.exists_of_backupIndex (h : ch.backupIndex? primary = some backup) :
    ∃ p b, ch.Pair primary backup p b := by
  obtain ⟨_, hbackup, _⟩ := Option.bind_eq_some_iff.mp h
  obtain ⟨p, hp, _⟩ := Option.bind_eq_some_iff.mp hbackup
  exact ⟨p, Pair.exists_of_index hp h⟩

theorem Linked.backup_notMem (hl : ch.Linked) (hroots : ch.Roots indices)
    (h : ch.backupIndex? primary = some backup) : backup ∉ indices := by
  intro hmem
  obtain ⟨p, b, hpair⟩ := Pair.exists_of_backupIndex h
  obtain ⟨_, _, hback⟩ := hpair.linked hl
  cases hback.symm.trans (hroots backup hmem b hpair.atBackup)

theorem Linked.backupIndex_inj (hl : ch.Linked) {i j : Nat}
    (hi : ch.backupIndex? i = some backup) (hj : ch.backupIndex? j = some backup) : i = j := by
  obtain ⟨p, b, hpair⟩ := Pair.exists_of_backupIndex hi
  obtain ⟨q, b', hpair'⟩ := Pair.exists_of_backupIndex hj
  obtain rfl := Option.some.inj (hpair.atBackup.symm.trans hpair'.atBackup)
  obtain ⟨_, _, hback⟩ := hpair.linked hl
  obtain ⟨_, _, hback'⟩ := hpair'.linked hl
  exact hl.distinct.index_eq hpair.atPrimary hpair'.atPrimary
    (Option.some.inj (hback.symm.trans hback'))

theorem Linked.apart (hl : ch.Linked) (hroots : ch.Roots (primary :: indices))
    (hnew : primary ∉ indices) (h : index ∈ ch.withBackups [primary]) :
    index ∉ ch.withBackups indices := by
  have hrest : ch.Roots indices := fun i hi => hroots i (List.mem_cons_of_mem primary hi)
  rw [notMem_withBackups]
  rcases List.mem_append.mp h with hself | hbackup
  · obtain rfl := List.mem_singleton.mp hself
    exact ⟨hnew, fun i _ hi => hl.backup_notMem hroots hi List.mem_cons_self⟩
  · obtain ⟨i, hi, hindex⟩ := List.mem_filterMap.mp hbackup
    obtain rfl := List.mem_singleton.mp hi
    refine ⟨hl.backup_notMem hrest hindex, fun j hj hshared => hnew ?_⟩
    exact hl.backupIndex_inj hshared hindex ▸ hj

/-! ### One failover -/

variable {σ : Type} [Service σ]

theorem triggerFailover_within (ch : Channel) (primary : Nat) (c : Connection σ) :
    Within (ch.withBackups [primary]) ch (ch.triggerFailover primary c).channel := by
  unfold triggerFailover
  cases ch.outputs[primary]? with
  | none => exact .refl _ ch
  | some output =>
    cases hindex : ch.backupIndex? primary with
    | none => exact .refl _ ch
    | some backup =>
      simp only
      split_ifs
      · exact .refl _ ch
      · rcases ch.swapIfActive primary backup c with ⟨error | _, c'⟩
        · exact ⟨fun _ _ => rfl, rfl, rfl⟩
        · have hboth : ch.withBackups [primary] = [primary, backup] := by
            simp [withBackups, hindex]
          rw [hboth]
          refine .trans ((Within.changeOutput ch primary _).mono ?_)
            ((Within.changeOutput _ backup _).mono ?_) <;> simp

theorem outputs_of_failed_failover {c : Connection σ} {error : ChannelError}
    (herror : (ch.triggerFailover primary c).result = .error error) :
    (ch.triggerFailover primary c).channel.outputs = ch.outputs := by
  refine triggerFailover_idle ?_
  rintro ⟨p, b, since, hidle, backup, c', hpair, hswap, _⟩
  rw [hpair.triggerFailover_eq hidle hswap] at herror
  cases herror

theorem failsOver_of_idle (hidle : ch.FailedOver primary = false) {c : Connection σ}
    (hok : (ch.triggerFailover primary c).result = .ok ()) :
    ∃ p b since, ch.FailsOver primary c p b since := by
  cases hp : ch.outputs[primary]? with
  | none =>
    rw [triggerFailover, hp] at hok
    cases hok
  | some p =>
    rw [FailedOver, hp] at hidle
    exact ⟨p, failsOver_of_ok hok hp hidle⟩

theorem OnBackup.keep (h : ch.OnBackup primary) (hw : ch'.wiring = ch.wiring)
    (hwithin : Within indices ch ch') (hapart : ∀ i ∈ ch.withBackups [primary], i ∉ indices) :
    ch'.OnBackup primary := by
  obtain ⟨backup, p, b, hpair, hgave, hstands⟩ := h
  have hmem : backup ∈ ch.withBackups [primary] :=
    List.mem_append_right _ (List.mem_filterMap.mpr ⟨primary, by simp, hpair.index⟩)
  refine ⟨backup, p, b, ⟨?_, ?_, ?_⟩, hgave, ?_⟩
  · rw [hwithin.others primary (hapart primary List.mem_cons_self)]
    exact hpair.atPrimary
  · exact (backupIndex?_of_wiring hw primary).trans hpair.index
  · rw [hwithin.others backup (hapart backup hmem)]
    exact hpair.atBackup
  · rw [hwithin.status]
    exact hstands

theorem OnBackup.failedOver (h : ch.OnBackup primary) : ch.FailedOver primary := by
  obtain ⟨_, p, _, hpair, hgave, _⟩ := h
  rw [FailedOver, hpair.atPrimary]
  exact hgave.flagged

theorem failedOver_iff_ok (hl : ch.Linked) (hidle : ch.FailedOver primary = false)
    (c : Connection σ) :
    (ch.triggerFailover primary c).channel.FailedOver primary ↔
      (ch.triggerFailover primary c).result = .ok () := by
  cases hresult : (ch.triggerFailover primary c).result with
  | ok =>
    obtain ⟨p, b, since, hover⟩ := failsOver_of_idle hidle hresult
    exact iff_of_true (hover.onBackup hl).failedOver rfl
  | error error =>
    rw [FailedOver, outputs_of_failed_failover hresult, ← FailedOver, hidle]
    exact iff_of_false Bool.false_ne_true nofun

/-! ### One after the other -/

theorem failoverEach_wiring (indices : List Nat) (ch : Channel) (c : Connection σ) :
    (failoverEach indices ch c).2.1.wiring = ch.wiring :=
  wiring_eq (failoverEach_tended (tending_true _) ch.refersTo_getD indices c).1

/-- Failovers that are still to come, of outputs that are no backups and not failed over. -/
structure Pending (ch : Channel) (indices : List Nat) : Prop where
  nodup : indices.Nodup
  linked : ch.Linked
  roots : ch.Roots indices
  idle : ∀ i ∈ indices, ch.FailedOver i = false

theorem Linked.pending (h : ch.Linked) : ch.Pending ch.failoverCandidates :=
  ⟨ch.nodup_failoverCandidates, h, ch.roots_failoverCandidates, fun _ => idle_of_candidate⟩

theorem Pending.after {rest : List Nat} (h : ch.Pending (index :: rest)) (c : Connection σ) :
    (ch.triggerFailover index c).channel.Pending rest := by
  obtain ⟨hnew, hnodup⟩ := List.nodup_cons.mp h.nodup
  have hw := ch.triggerFailover_wiring index c
  have hrest : ch.Roots rest := fun i hi => h.roots i (List.mem_cons_of_mem index hi)
  refine ⟨hnodup, h.linked.of_wiring hw, hrest.of_wiring hw, fun i hi => ?_⟩
  have hbeyond : i ∉ ch.withBackups [index] := fun hmem =>
    h.linked.apart h.roots hnew hmem (List.mem_append_left _ hi)
  rw [FailedOver, (ch.triggerFailover_within index c).others i hbeyond]
  exact h.idle i (List.mem_cons_of_mem index hi)

/-- What comes of failovers at some positions: those that succeeded are counted and have their
traffic on the backup, and besides them and their backups nothing changed. -/
structure Handled (indices : List Nat) (ch ch' : Channel) (count : Nat) : Prop where
  count : count = (indices.filter ch'.FailedOver).length
  moved : ∀ i ∈ indices.filter ch'.FailedOver, ch'.OnBackup i
  within : Within (ch.withBackups (indices.filter ch'.FailedOver)) ch ch'

namespace Handled

variable {ch₁ ch₂ : Channel} {rest : List Nat} {count : Nat}

theorem leaves (h : Handled rest ch₁ ch₂ count) (hl : ch₁.Linked)
    (hroots : ch₁.Roots (index :: rest)) (hnew : index ∉ rest) :
    (∀ i ∈ ch₁.withBackups [index], i ∉ ch₁.withBackups (rest.filter ch₂.FailedOver)) ∧
      ch₂.FailedOver index = ch₁.FailedOver index := by
  have hleft : ∀ i ∈ ch₁.withBackups [index],
      i ∉ ch₁.withBackups (rest.filter ch₂.FailedOver) := fun i hi hmem =>
    hl.apart hroots hnew hi (withBackups_mono (List.filter_subset_self rest) hmem)
  refine ⟨hleft, ?_⟩
  rw [FailedOver, h.within.others index (hleft index List.mem_cons_self), FailedOver]

theorem after_moved (h : Handled rest ch₁ ch₂ count) (hl : ch₁.Linked)
    (hroots : ch₁.Roots (index :: rest)) (hnew : index ∉ rest) (hw : ch₁.wiring = ch.wiring)
    (hlater : ch₂.wiring = ch₁.wiring) (hfirst : Within (ch.withBackups [index]) ch ch₁)
    (hon : ch₁.OnBackup index) : Handled (index :: rest) ch ch₂ (count + 1) := by
  obtain ⟨hleft, hsame⟩ := h.leaves hl hroots hnew
  have hfilter : (index :: rest).filter ch₂.FailedOver = index :: rest.filter ch₂.FailedOver :=
    List.filter_cons_of_pos (hsame.trans hon.failedOver)
  refine ⟨?_, ?_, ?_⟩
  · rw [hfilter, List.length_cons, h.count]
  · rw [hfilter]
    exact List.forall_mem_cons.mpr ⟨hon.keep hlater h.within hleft, h.moved⟩
  · rw [hfilter]
    have hwithin := h.within
    rw [withBackups_of_wiring hw] at hwithin
    exact (hfirst.mono (withBackups_mono (by simp))).trans
      (hwithin.mono (withBackups_mono (List.subset_cons_self _ _)))

theorem after_left (h : Handled rest ch₁ ch₂ count) (hl : ch₁.Linked)
    (hroots : ch₁.Roots (index :: rest)) (hnew : index ∉ rest) (hw : ch₁.wiring = ch.wiring)
    (hfirst : Within [] ch ch₁) (hidle : ch₁.FailedOver index = false) :
    Handled (index :: rest) ch ch₂ count := by
  obtain ⟨_, hsame⟩ := h.leaves hl hroots hnew
  have hfilter : (index :: rest).filter ch₂.FailedOver = rest.filter ch₂.FailedOver :=
    List.filter_cons_of_neg (by rw [hsame, hidle]; exact Bool.false_ne_true)
  refine ⟨?_, ?_, ?_⟩
  · rw [hfilter, h.count]
  · rw [hfilter]
    exact h.moved
  · rw [hfilter]
    have hwithin := h.within
    rw [withBackups_of_wiring hw] at hwithin
    exact (hfirst.mono (List.nil_subset _)).trans hwithin

end Handled

theorem failoverEach_cons (index : Nat) (rest : List Nat) (ch : Channel) (c : Connection σ) :
    (failoverEach (index :: rest) ch c).2 =
      (failoverEach rest (ch.triggerFailover index c).channel
        (ch.triggerFailover index c).connection).2 :=
  rfl

/-- The failovers at outputs that are no backups are independent of each other. -/
theorem Pending.handled (h : ch.Pending indices) (c : Connection σ) :
    Handled indices ch (failoverEach indices ch c).2.1 (failoverEach indices ch c).1 := by
  induction indices generalizing ch c with
  | nil => exact ⟨rfl, nofun, .refl _ ch⟩
  | cons index rest ih =>
    have hrest := h.after c
    have hlater := ih hrest (ch.triggerFailover index c).connection
    have hnew := (List.nodup_cons.mp h.nodup).1
    have hidle := h.idle index List.mem_cons_self
    have hw := ch.triggerFailover_wiring index c
    have hroots := h.roots.of_wiring hw
    have hwithin := ch.triggerFailover_within index c
    rw [failoverEach_cons]
    cases hresult : (ch.triggerFailover index c).result with
    | ok =>
      obtain ⟨p, b, since, hover⟩ := failsOver_of_idle hidle hresult
      have hmoved := hlater.after_moved hrest.linked hroots hnew hw (failoverEach_wiring rest _ _)
        hwithin (hover.onBackup h.linked)
      simpa only [failoverEach, hresult] using hmoved
    | error error =>
      have hsame := outputs_of_failed_failover hresult
      have hnone : Within [] ch (ch.triggerFailover index c).channel :=
        ⟨fun i _ => congrArg (·[i]?) hsame, hwithin.length, hwithin.terms⟩
      have hstill : (ch.triggerFailover index c).channel.FailedOver index = false := by
        rw [FailedOver, hnone.others index List.not_mem_nil]
        exact hidle
      have hleft := hlater.after_left hrest.linked hroots hnew hw hnone hstill
      simpa only [failoverEach, hresult] using hleft

/-! ### Each in its turn -/

/-- A failover at a position, with the channel and the connection that it meets. -/
structure FailoverVisit (σ : Type) where
  index : Nat
  channel : Channel
  connection : Connection σ

def FailoverVisit.outcome (v : FailoverVisit σ) : Outcome σ Unit :=
  v.channel.triggerFailover v.index v.connection

/-- The failovers at some positions, each on what those before it left. -/
def failoverVisits : List Nat → Channel → Connection σ → List (FailoverVisit σ)
  | [], _, _ => []
  | index :: rest, ch, c =>
    let visit : FailoverVisit σ := ⟨index, ch, c⟩
    visit :: failoverVisits rest visit.outcome.channel visit.outcome.connection

theorem map_failoverVisits (indices : List Nat) (ch : Channel) (c : Connection σ) :
    (failoverVisits indices ch c).map (·.index) = indices := by
  induction indices generalizing ch c with
  | nil => rfl
  | cons index rest ih => rw [failoverVisits, List.map_cons, ih]

theorem failoverEach_eq_last (indices : List Nat) (ch : Channel) (c : Connection σ) :
    (failoverEach indices ch c).2 =
      ((failoverVisits indices ch c).map fun v =>
        (v.outcome.channel, v.outcome.connection)).getLastD (ch, c) := by
  induction indices generalizing ch c with
  | nil => rfl
  | cons index rest ih =>
    rw [failoverEach_cons, failoverVisits, List.map_cons, List.getLastD_cons]
    exact ih _ _

/-- A failover shows in the end exactly when it went through in its turn. -/
theorem Pending.told (h : ch.Pending indices) (c : Connection σ) :
    ∀ v ∈ failoverVisits indices ch c,
      (failoverEach indices ch c).2.1.FailedOver v.index ↔ v.outcome.result = .ok () := by
  induction indices generalizing ch c with
  | nil => exact List.forall_mem_nil _
  | cons index rest ih =>
    have hrest := h.after c
    have hroots := h.roots.of_wiring (ch.triggerFailover_wiring index c)
    have hlater := hrest.handled (ch.triggerFailover index c).connection
    obtain ⟨_, hsame⟩ := hlater.leaves hrest.linked hroots (List.nodup_cons.mp h.nodup).1
    have hfirst := failedOver_iff_ok h.linked (h.idle index List.mem_cons_self) c
    rw [← hsame] at hfirst
    rw [failoverEach_cons, failoverVisits]
    exact List.forall_mem_cons.mpr ⟨hfirst, ih hrest _⟩

/-- When all that were picked are failed over, nothing is left to pick: a backup is no primary that
is failed over by itself. -/
theorem Handled.none_left {count : Nat} (h : Handled ch.failoverCandidates ch ch' count)
    (hl : ch'.Linked) (hw : ch'.wiring = ch.wiring)
    (hall : count = ch.failoverCandidates.length) : ch'.failoverCandidates = [] := by
  have hmoved : ch.failoverCandidates.filter ch'.FailedOver = ch.failoverCandidates :=
    List.filter_eq_self.mpr (List.length_filter_eq_length_iff.mp (h.count.symm.trans hall))
  obtain ⟨_, hon, hwithin⟩ := h
  rw [hmoved] at hon hwithin
  refine List.eq_nil_iff_forall_not_mem.mpr fun i hi => ?_
  obtain ⟨o, ho, hoverdue⟩ := mem_failoverCandidates.mp hi
  by_cases htouched : i ∈ ch.withBackups ch.failoverCandidates
  · rcases List.mem_append.mp htouched with hmem | hbackup
    · exact Bool.false_ne_true ((idle_of_candidate hi).symm.trans (hon i hmem).failedOver)
    · obtain ⟨j, _, hindex⟩ := List.mem_filterMap.mp hbackup
      rw [← backupIndex?_of_wiring hw] at hindex
      exact hl.backup_notMem ch'.roots_failoverCandidates hindex hi
  · rw [hwithin.others i htouched] at ho
    rw [hwithin.health] at hoverdue
    exact htouched (List.mem_append_left _ (mem_failoverCandidates.mpr ⟨o, ho, hoverdue⟩))

/-- A check of a channel on the air tries the failover of each overdue output once and in turn, on
what those before it left, whatever the service answers. It counts those that are failed over then,
which are those whose own failover went through; their traffic is on their backups, and besides them
and their backups nothing changes. When it failed over all of them, another check does nothing. -/
theorem check_fails_over_overdue {ch : Channel} (ha : ch.status = .active) (hl : ch.Linked)
    (c : Connection σ) :
    let check := ch.checkFailover c
    let visits := failoverVisits ch.failoverCandidates ch c
    let moved := ch.failoverCandidates.filter check.2.1.FailedOver
    (ch.failoverCandidates.Nodup ∧ ∀ i, i ∈ ch.failoverCandidates ↔
      ∃ o, ch.outputs[i]? = some o ∧ o.Overdue (max ch.health.threshold 1)) ∧
    (visits.map (·.index) = ch.failoverCandidates ∧
      check.2 = (visits.map fun v => (v.outcome.channel, v.outcome.connection)).getLastD (ch, c) ∧
      ∀ v ∈ visits, (v.index ∈ moved ↔ v.outcome.result = .ok ()) ∧
        ∀ error, v.outcome.result = .error error → v.outcome.channel.outputs = v.channel.outputs) ∧
    check.1 = moved.length ∧ (∀ i ∈ moved, check.2.1.OnBackup i) ∧
    Within (ch.withBackups moved) ch check.2.1 ∧ check.2.1.status = .active ∧
    (check.1 = ch.failoverCandidates.length →
      ∀ d : Connection σ, check.2.1.checkFailover d = (0, check.2.1, d)) := by
  intro check visits moved
  have hcheck : check = failoverEach ch.failoverCandidates ch c := if_pos ha
  have hpending := hl.pending
  have hhandled : Handled ch.failoverCandidates ch check.2.1 check.1 := by
    rw [hcheck]
    exact hpending.handled c
  have hw : check.2.1.wiring = ch.wiring := by
    rw [hcheck]
    exact failoverEach_wiring _ ch c
  have hmap : visits.map (·.index) = ch.failoverCandidates := map_failoverVisits _ ch c
  have htold : ∀ v ∈ visits, v.index ∈ moved ↔ v.outcome.result = .ok () := by
    intro v hv
    have hmem : v.index ∈ ch.failoverCandidates := hmap ▸ List.mem_map_of_mem hv
    rw [List.mem_filter, and_iff_right hmem, hcheck]
    exact hpending.told c v hv
  have hstatus : check.2.1.status = .active := hhandled.within.status.trans ha
  refine ⟨⟨ch.nodup_failoverCandidates, fun _ => mem_failoverCandidates⟩,
    ⟨hmap, ?_, fun v hv => ⟨htold v hv, fun error => outputs_of_failed_failover⟩⟩,
    hhandled.count, hhandled.moved, hhandled.within, hstatus, fun hall d => ?_⟩
  · rw [hcheck]
    exact failoverEach_eq_last _ ch c
  · have hnone := hhandled.none_left (hl.of_wiring hw) hw hall
    rw [checkFailover, if_pos hstatus, hnone, failoverEach]

/-- A service that does not take on one of the outputs. -/
structure Picky where
  remote : Simulated
  refused : String

def Picky.refuses (s : Picky) : Call → Bool
  | .perform _ (.addOutput _ output) => output.id == s.refused
  | _ => false

def Picky.refusal : RemoteError := .transport "output refused"

instance : Service Picky where
  answer s call :=
    if s.refuses call then (.error Picky.refusal, s)
    else
      let (reply, remote) := s.remote.answer call
      (reply, { s with remote })

def pickyAiring (refused : String) : Connection Picky where
  session := airing.session
  clock := airing.clock
  remote :=
    let outputs := ["Custom_0", "Custom_2", "Custom_4"].map ({ id := ·, url := "" })
    let processes := airing.remote.processes.map ({ · with outputs })
    { remote := { airing.remote with processes }, refused }

/-- Three outputs on the air that were missed, each with its backup after it. -/
def missedOnAir : Channel :=
  let add : Operation := .addOutput .custom "" .auto {}
  let ch := [add, add, add, add, add, add, .setOutputBackup 0 1, .setOutputBackup 2 3,
    .setOutputBackup 4 5].foldl (fun ch op => (op.run ch (pickyAiring "")).channel)
      { id := "channel", name := "" }
  changeEach ({ · with failures := 1 })
    { ch with status := .active, processReference := some "channel" } [0, 2, 4]

/-- The second of three failovers is refused and the others go through; once none is refused there
is nothing left to do. -/
theorem check_fails_over_overdue_missed :
    let ch := missedOnAir
    let check := ch.checkFailover (pickyAiring "Custom_3")
    let visits := failoverVisits ch.failoverCandidates ch (pickyAiring "Custom_3")
    let spared := ch.checkFailover (pickyAiring "")
    (ch.status = .active ∧ ch.Linked ∧ spared.1 = ch.failoverCandidates.length) ∧
      (visits.map (fun v => (v.index, v.outcome.result)) =
          [(0, .ok ()), (2, .error (.remote Picky.refusal)), (4, .ok ())] ∧
        check.1 = 2 ∧ check.2.1.OnBackup 0 ∧ check.2.1.OnBackup 4 ∧
        check.2.1.outputs[2]? = ch.outputs[2]? ∧ check.2.1.outputs[3]? = ch.outputs[3]? ∧
        check.2.2.remote.remote.processes.map (·.outputIds) =
          [["Custom_2", "Custom_1", "Custom_5"]]) ∧
      spared.1 = 3 ∧
      ∀ d : Connection Picky, spared.2.1.checkFailover d = (0, spared.2.1, d) := by
  intro ch check visits spared
  have hlinked : ch.Linked :=
    (Reachable.runs (.new "channel" "") _ (pickyAiring "")).linked.of_wiring rfl
  have hall : spared.1 = ch.failoverCandidates.length := by decide +kernel
  have hmiddle : ch.failoverCandidates.filter check.2.1.FailedOver = [0, 4] := by decide +kernel
  obtain ⟨_, _, hcount, hmoved, hwithin, _⟩ :=
    check_fails_over_overdue rfl hlinked (pickyAiring "Custom_3")
  obtain ⟨_, _, _, _, _, _, hagain⟩ := check_fails_over_overdue rfl hlinked (pickyAiring "")
  rw [hmiddle] at hcount hmoved hwithin
  have hprimary := hwithin.others 2 (by decide +kernel)
  have hbackup := hwithin.others 3 (by decide +kernel)
  refine ⟨⟨rfl, hlinked, hall⟩, ⟨?_, hcount, hmoved 0 (by decide), hmoved 4 (by decide), hprimary,
    hbackup, ?_⟩, ?_, hagain hall⟩
  · decide +kernel
  · decide +kernel
  · decide +kernel

end Channel

end Simulcast
