import Mathlib.Data.List.Dedup
import Simulcast.Proofs.Backup.Sound

/-!
# Removing many outputs

Outputs are removed one after the other, the highest position first, and each time the links to the
one that goes are cleared. As those that are still to go stay where they are, what is left in the
end are the outputs at the positions that were not named, in their order and without the links to
those that are gone.
-/

namespace Simulcast

namespace Output

def namesOneOf (gone : List OutputId) (link : Option OutputId) : Bool := link.any gone.contains

/-- The output once these are gone. With a link to one of them goes the failover it was part of. -/
def without (gone : List OutputId) (o : Output) : Output :=
  { o with
    backup := if namesOneOf gone o.backup then none else o.backup
    primary := if namesOneOf gone o.primary then none else o.primary
    failoverActive :=
      o.failoverActive && !(namesOneOf gone o.backup || namesOneOf gone o.primary) }

@[simp] theorem without_id (gone : List OutputId) (o : Output) : (o.without gone).id = o.id := rfl

theorem without_nil (o : Output) : o.without [] = o := by
  have hnone (link : Option OutputId) : namesOneOf [] link = false := by cases link <;> rfl
  simp [without, hnone]

theorem without_congr {gone gone' : List OutputId} (h : ∀ id, id ∈ gone ↔ id ∈ gone') :
    without gone = without gone' := by
  have hsame : namesOneOf gone = namesOneOf gone' := by
    funext link
    cases link with
    | none => rfl
    | some id => simp [namesOneOf, h id]
  funext o
  simp only [without, hsame]

theorem namesOneOf_cons (id : OutputId) (gone : List OutputId) (link : Option OutputId) :
    namesOneOf (id :: gone) link = (link == some id || namesOneOf gone link) := by
  cases link with
  | none => rfl
  | some other => by_cases h : other = id <;> simp [namesOneOf, h]

theorem without_unlink (id : OutputId) (gone : List OutputId) (o : Output) :
    (Channel.unlink id o).without gone = o.without (id :: gone) := by
  have hnone : namesOneOf gone none = false := rfl
  simp only [without, Channel.unlink, namesOneOf_cons]
  by_cases hb : o.backup = some id <;> by_cases hp : o.primary = some id <;>
    simp [hb, hp, hnone, Bool.and_assoc, Bool.and_left_comm]

end Output

namespace Channel

variable {ch : Channel}

/-! ### One after the other -/

/-- What is left of the channel once these are gone. -/
def leaving (ch : Channel) (gone : List OutputId) : Channel :=
  { ch with outputs := (ch.outputs.filter fun o => !gone.contains o.id).map (Output.without gone) }

def idsAt (ch : Channel) (indices : List Nat) : List OutputId :=
  indices.filterMap fun i => ch.outputs[i]?.map (·.id)

theorem mem_idsAt {indices : List Nat} {id : OutputId} :
    id ∈ ch.idsAt indices ↔ ∃ i ∈ indices, ∃ o, ch.outputs[i]? = some o ∧ o.id = id := by
  simp [idsAt]

theorem Distinct.dropOutput_eq (h : ch.Distinct) {index : Nat} {removed : Output}
    (hr : ch.outputs[index]? = some removed) : ch.dropOutput index = ch.leaving [removed.id] := by
  have herase := eraseIdx_name h hr
  have hwithout : Output.without [removed.id] = unlink removed.id := by
    funext o
    rw [← Output.without_unlink, Output.without_nil]
  have hkeep : (fun o : Output => o.id != removed.id) =
      fun o => !([removed.id] : List OutputId).contains o.id := by
    funext o
    by_cases he : o.id = removed.id <;> simp [he]
  simp only [dropOutput, hr, leaving, herase, hwithout, hkeep]

theorem leaving_leaving (ch : Channel) (id : OutputId) (gone : List OutputId) :
    (ch.leaving [id]).leaving gone = ch.leaving (id :: gone) := by
  have hboth : Output.without gone ∘ Output.without [id] = Output.without (id :: gone) := by
    funext o
    have hone : o.without [id] = unlink id o := by rw [← Output.without_unlink, Output.without_nil]
    rw [Function.comp_apply, hone, Output.without_unlink]
  have hkeep (o : Output) : (!gone.contains o.id && !([id] : List OutputId).contains o.id) =
      !(id :: gone).contains o.id := by
    simp [Bool.and_comm]
  simp only [leaving, List.filter_map, List.map_map, hboth, List.filter_filter, Function.comp_def,
    Output.without_id, hkeep]

theorem Distinct.distinct_leaving (h : ch.Distinct) (gone : List OutputId) :
    (ch.leaving gone).Distinct := by
  have hids : (ch.leaving gone).outputs.map (·.id) =
      (ch.outputs.filter fun o => !gone.contains o.id).map (·.id) := by
    simp [Channel.leaving, Function.comp_def]
  rw [Distinct, hids]
  exact h.sublist (List.filter_sublist.map _)

theorem getElem?_dropOutput {index i : Nat} (hi : i < index) :
    ((ch.dropOutput index).outputs[i]?).map (·.id) = ch.outputs[i]?.map (·.id) := by
  cases hr : ch.outputs[index]? with
  | none => simp only [dropOutput, hr]
  | some removed =>
    simp only [dropOutput, hr, List.getElem?_map, List.getElem?_eraseIdx, if_pos hi, Option.map_map]
    rfl

theorem length_dropOutput {index : Nat} (hlt : index < ch.outputs.length) :
    (ch.dropOutput index).outputs.length = ch.outputs.length - 1 := by
  simp [dropOutput, List.length_eraseIdx, hlt]

theorem dropOutput_of_outside {index : Nat} (hr : ch.outputs[index]? = none) :
    ch.dropOutput index = ch := by
  simp only [dropOutput, hr]

theorem Distinct.dropEach_eq (h : ch.Distinct) {order : List Nat}
    (hdown : order.Pairwise (· > ·)) : order.foldl dropOutput ch = ch.leaving (ch.idsAt order) := by
  induction order generalizing ch with
  | nil =>
    have hself : Output.without [] = fun o => o := funext Output.without_nil
    simp [leaving, idsAt, hself]
  | cons index rest ih =>
    obtain ⟨hbelow, hdown⟩ := List.pairwise_cons.mp hdown
    cases hr : ch.outputs[index]? with
    | none =>
      have hids : ch.idsAt (index :: rest) = ch.idsAt rest := by simp [idsAt, hr]
      rw [List.foldl_cons, dropOutput_of_outside hr, ih h hdown, hids]
    | some removed =>
      have hids : (ch.dropOutput index).idsAt rest = ch.idsAt rest :=
        List.filterMap_congr fun i hi => getElem?_dropOutput (hbelow i hi)
      have hcons : ch.idsAt (index :: rest) = removed.id :: ch.idsAt rest := by simp [idsAt, hr]
      have hd : (ch.dropOutput index).Distinct := by
        rw [h.dropOutput_eq hr]
        exact h.distinct_leaving _
      rw [List.foldl_cons, ih hd hdown, hids, hcons, h.dropOutput_eq hr, leaving_leaving]

theorem removeOutput_of_stopped (hstopped : ch.status = .inactive ∨ ch.status = .error)
    (index : Nat) : ch.removeOutput index =
      if index < ch.outputs.length then .ok (ch.dropOutput index)
      else .error (ch.noOutput index) := by
  simp only [removeOutput, ensureStopped, if_pos hstopped]

/-- From the highest position down exactly the positions beyond the end fail: a position that is
still to come is not moved by the removals before it. -/
theorem removeEach_eq (hstopped : ch.status = .inactive ∨ ch.status = .error) {order : List Nat}
    (hdown : order.Pairwise (· > ·)) :
    removeEach order ch = (order.countP ch.outside, order.foldl dropOutput ch) := by
  induction order generalizing ch with
  | nil => rfl
  | cons index rest ih =>
    obtain ⟨hbelow, hdown⟩ := List.pairwise_cons.mp hdown
    rw [removeEach, removeOutput_of_stopped hstopped, List.foldl_cons, List.countP_cons]
    by_cases hlt : index < ch.outputs.length
    · have hstanding := ch.standing_dropOutput index
      have hstatus : (ch.dropOutput index).status = ch.status := congrArg (·.status) hstanding
      have hsame : rest.countP (ch.dropOutput index).outside = rest.countP ch.outside := by
        refine List.countP_congr fun i hi => ?_
        have := hbelow i hi
        simp only [outside, length_dropOutput hlt, decide_eq_true_eq]
        omega
      have hinside : ch.outside index = false := decide_eq_false (Nat.not_le.mpr hlt)
      rw [← hstatus] at hstopped
      rw [if_pos hlt, hinside]
      exact (ih hstopped hdown).trans (by rw [hsame]; rfl)
    · have houtside : ch.outside index = true := decide_eq_true (Nat.not_lt.mp hlt)
      have hr : ch.outputs[index]? = none := List.getElem?_eq_none (Nat.not_lt.mp hlt)
      rw [if_neg hlt, houtside, if_pos rfl, dropOutput_of_outside hr]
      simp only [ih hstopped hdown]

/-! ### The order of removal -/

theorem eraseReps_loop (a : Nat) (l acc : List Nat) :
    List.eraseRepsBy.loop (· == ·) a l acc = acc.reverse ++ (a :: l).eraseReps := by
  induction l generalizing a acc with
  | nil => simp [List.eraseReps, List.eraseRepsBy, List.eraseRepsBy.loop]
  | cons b l ih =>
    simp only [List.eraseReps, List.eraseRepsBy, List.eraseRepsBy.loop] at ih ⊢
    split
    · exact ih a acc
    · rw [ih b (a :: acc), ih b [a]]
      simp

theorem eraseReps_cons_cons (a b : Nat) (l : List Nat) :
    (a :: b :: l).eraseReps = if a = b then (b :: l).eraseReps else a :: (b :: l).eraseReps := by
  split_ifs with h
  · subst h
    simp [List.eraseReps, List.eraseRepsBy, List.eraseRepsBy.loop]
  · have hne : (a == b) = false := beq_eq_false_iff_ne.mpr h
    simp only [List.eraseReps, List.eraseRepsBy, List.eraseRepsBy.loop, hne]
    exact eraseReps_loop b l [a]

theorem mem_eraseReps {i : Nat} {l : List Nat} : i ∈ l.eraseReps ↔ i ∈ l := by
  induction l with
  | nil => rfl
  | cons a l ih =>
    cases l with
    | nil => rfl
    | cons b l =>
      rw [eraseReps_cons_cons]
      split_ifs with h
      · simp [ih, h]
      · rw [List.mem_cons, ih, ← List.mem_cons]

theorem pairwise_eraseReps {l : List Nat} (h : l.Pairwise (· ≥ ·)) :
    l.eraseReps.Pairwise (· > ·) := by
  induction l with
  | nil => exact .nil
  | cons a l ih =>
    obtain ⟨hbelow, htail⟩ := List.pairwise_cons.mp h
    cases l with
    | nil => exact List.pairwise_singleton _ a
    | cons b l =>
      rw [eraseReps_cons_cons]
      split_ifs with hab
      · exact ih htail
      · refine List.pairwise_cons.mpr ⟨fun i hi => ?_, ih htail⟩
        have hb := hbelow b List.mem_cons_self
        have hi := mem_eraseReps.mp hi
        obtain rfl | hi := List.mem_cons.mp hi
        · omega
        · have := (List.pairwise_cons.mp htail).1 i hi
          omega

theorem mem_removalOrder {indices : List Nat} {i : Nat} :
    i ∈ removalOrder indices ↔ i ∈ indices := by
  rw [removalOrder, mem_eraseReps, List.mem_mergeSort]

theorem removalOrder_down (indices : List Nat) : (removalOrder indices).Pairwise (· > ·) := by
  have htrans (i j k : Nat) (hij : decide (i ≥ j) = true) (hjk : decide (j ≥ k) = true) :
      decide (i ≥ k) = true :=
    decide_eq_true (Nat.le_trans (of_decide_eq_true hjk) (of_decide_eq_true hij))
  have htotal (i j : Nat) : (decide (i ≥ j) || decide (j ≥ i)) = true := by
    simpa using Nat.le_total j i
  exact pairwise_eraseReps ((List.pairwise_mergeSort htrans htotal indices).imp of_decide_eq_true)

theorem removalOrder_perm (indices : List Nat) : (removalOrder indices).Perm indices.dedup := by
  refine (List.perm_ext_iff_of_nodup ?_ indices.nodup_dedup).mpr fun i => ?_
  · exact (removalOrder_down indices).imp fun hgt => Nat.ne_of_gt hgt
  · rw [mem_removalOrder, List.mem_dedup]

/-! ### The positions that are named -/

def named (ch : Channel) (indices : List Nat) : List Output :=
  (ch.outputs.zipIdx.filter fun x => indices.contains x.2).map Prod.fst

def unnamed (ch : Channel) (indices : List Nat) : List Output :=
  (ch.outputs.zipIdx.filter fun x => !indices.contains x.2).map Prod.fst

variable {indices : List Nat}

theorem mem_named {o : Output} :
    o ∈ ch.named indices ↔ ∃ i ∈ indices, ch.outputs[i]? = some o := by
  simp [named, List.mem_zipIdx_iff_getElem?, and_comm]

theorem mem_unnamed {o : Output} :
    o ∈ ch.unnamed indices ↔ ∃ i, i ∉ indices ∧ ch.outputs[i]? = some o := by
  simp [unnamed, List.mem_zipIdx_iff_getElem?, and_comm]

theorem Distinct.mem_named_ids (h : ch.Distinct) {i : Nat} {o : Output}
    (ho : ch.outputs[i]? = some o) : o.id ∈ (ch.named indices).map (·.id) ↔ i ∈ indices := by
  rw [List.mem_map]
  constructor
  · rintro ⟨o', ho', he⟩
    obtain ⟨j, hj, hat⟩ := mem_named.mp ho'
    rwa [h.index_eq ho hat he.symm]
  · exact fun hi => ⟨o, mem_named.mpr ⟨i, hi, ho⟩, rfl⟩

theorem Distinct.unnamed_eq (h : ch.Distinct) (indices : List Nat) :
    (ch.outputs.filter fun o => !((ch.named indices).map (·.id)).contains o.id) =
      ch.unnamed indices := by
  have hkeep : ∀ x ∈ ch.outputs.zipIdx,
      (!((ch.named indices).map (·.id)).contains x.1.id) = !indices.contains x.2 := by
    rintro ⟨o, i⟩ hx
    have hmem : o.id ∈ (ch.named indices).map (·.id) ↔ i ∈ indices :=
      h.mem_named_ids (List.mem_zipIdx_iff_getElem?.mp hx)
    rw [Bool.eq_iff_iff, Bool.not_eq_true', Bool.not_eq_true', ← Bool.not_eq_true,
      ← Bool.not_eq_true, List.contains_iff_mem, List.contains_iff_mem, hmem]
  calc
    _ = (ch.outputs.zipIdx.map Prod.fst).filter
          fun o => !((ch.named indices).map (·.id)).contains o.id := by rw [List.zipIdx_map_fst]
    _ = ch.unnamed indices := by
      rw [List.filter_map, unnamed, ← List.filter_congr hkeep]
      rfl

/-- After the removal there are left the outputs at the positions that were not named. -/
theorem Distinct.dropNamed_eq (h : ch.Distinct) (indices : List Nat) :
    (removalOrder indices).foldl dropOutput ch =
      { ch with
        outputs := (ch.unnamed indices).map
          (Output.without ((ch.named indices).map (·.id))) } := by
  have hids (id : OutputId) :
      id ∈ ch.idsAt (removalOrder indices) ↔ id ∈ (ch.named indices).map (·.id) := by
    simp only [mem_idsAt, mem_removalOrder, List.mem_map, mem_named]
    constructor
    · rintro ⟨i, hi, o, ho, rfl⟩
      exact ⟨o, ⟨i, hi, ho⟩, rfl⟩
    · rintro ⟨o, ⟨i, hi, ho⟩, rfl⟩
      exact ⟨i, hi, o, ho, rfl⟩
  have hkeep : (fun o : Output => !(ch.idsAt (removalOrder indices)).contains o.id) =
      fun o => !((ch.named indices).map (·.id)).contains o.id := by
    funext o
    rw [Bool.eq_iff_iff]
    simp [hids]
  rw [h.dropEach_eq (removalOrder_down indices), leaving, Output.without_congr hids, hkeep,
    h.unnamed_eq]

theorem Distinct.links_dropNamed (h : ch.Distinct) {a b : Output} (ha : a ∈ ch.unnamed indices)
    (hb : b ∈ ch.unnamed indices) :
    ((removalOrder indices).foldl dropOutput ch).HasBackup a.id b.id ↔
      ch.HasBackup a.id b.id := by
  obtain ⟨i, hi, hati⟩ := mem_unnamed.mp ha
  obtain ⟨j, hj, hatj⟩ := mem_unnamed.mp hb
  have hstays : Output.namesOneOf ((ch.named indices).map (·.id)) (some b.id) = false := by
    rw [Output.namesOneOf, Option.any_some, ← Bool.not_eq_true, List.contains_iff_mem,
      h.mem_named_ids hatj]
    exact hj
  rw [h.dropNamed_eq]
  constructor
  · rintro ⟨_, hmem, he, hlink⟩
    obtain ⟨o, ho, rfl⟩ := List.mem_map.mp hmem
    obtain ⟨k, _, hatk⟩ := mem_unnamed.mp ho
    simp only [Output.without, Option.ite_none_left_eq_some] at hlink
    exact ⟨o, List.mem_of_getElem? hatk, he, hlink.2⟩
  · intro hlink
    have hold := (h.links_iff (List.mem_of_getElem? hati)).mp hlink
    refine ⟨_, List.mem_map_of_mem ha, rfl, ?_⟩
    simp only [Output.without, hold, hstays]
    rfl

/-! ### How many positions fail -/

theorem bulkRemoveOutputs_eq (hstopped : ch.status = .inactive ∨ ch.status = .error)
    (indices : List Nat) : ch.bulkRemoveOutputs indices =
      (bulkResult ((indices.length - indices.dedup.length) + indices.dedup.countP ch.outside)
        indices.length, (removalOrder indices).foldl dropOutput ch) := by
  have hperm := removalOrder_perm indices
  simp only [bulkRemoveOutputs, ensureStopped, if_pos hstopped,
    removeEach_eq hstopped (removalOrder_down indices), hperm.length_eq, hperm.countP_eq]

theorem no_failed_removals_iff (ch : Channel) (indices : List Nat) :
    (indices.length - indices.dedup.length) + indices.dedup.countP ch.outside = 0 ↔
      indices.Nodup ∧ ∀ i ∈ indices, i < ch.outputs.length := by
  have hsub := List.dedup_sublist indices
  have hnodup : indices.length - indices.dedup.length = 0 ↔ indices.Nodup := by
    rw [← List.dedup_eq_self, Nat.sub_eq_zero_iff_le]
    exact ⟨fun hle => hsub.eq_of_length_le hle, fun he => by rw [he]⟩
  have hinside : indices.dedup.countP ch.outside = 0 ↔ ∀ i ∈ indices, i < ch.outputs.length := by
    simp [List.countP_eq_zero, outside]
  rw [Nat.add_eq_zero_iff, hnodup, hinside]

/-- Removing many outputs at once from a channel that is stopped, in which every output has an id of
its own. The positions may be given in any order, twice, or beyond the end. Exactly the outputs at
the named positions go; the others stay in their order and lose nothing but the links to those that
went, with the failover that such a link was part of, and links between them stay. What is named
twice or does not exist is counted as failed. While a process may be running nothing is removed. -/
theorem bulk_removal_exact {σ : Type} [Service σ] (ch : Channel) (indices : List Nat)
    (c : Connection σ) :
    let outcome := (Operation.bulkRemoveOutputs indices).run ch c
    let sound := indices.Nodup ∧ ∀ i ∈ indices, i < ch.outputs.length
    (ch.status = .inactive ∨ ch.status = .error → ch.Distinct →
      outcome.channel = { ch with
        outputs := (ch.unnamed indices).map (Output.without ((ch.named indices).map (·.id))) } ∧
      (∀ a ∈ ch.unnamed indices, ∀ b ∈ ch.unnamed indices,
        outcome.channel.HasBackup a.id b.id ↔ ch.HasBackup a.id b.id) ∧
      (outcome.result = .ok .nothing ↔ sound) ∧
      (¬ sound → outcome.result = .error (.bulk
        ((indices.length - indices.dedup.length) + indices.dedup.countP ch.outside)
        indices.length))) ∧
    (ch.status ≠ .inactive → ch.status ≠ .error →
      outcome.result = .error (.invalidState "remove outputs" ch.status) ∧
        outcome.channel = ch) := by
  intro outcome sound
  refine ⟨fun hstopped h => ?_, fun hinactive herror => ?_⟩
  · have hbulk := bulkRemoveOutputs_eq hstopped indices
    have hchannel : outcome.channel = (removalOrder indices).foldl dropOutput ch :=
      congrArg Prod.snd hbulk
    have hresult : outcome.result = (bulkResult
        ((indices.length - indices.dedup.length) + indices.dedup.countP ch.outside)
        indices.length).map fun _ => .nothing :=
      congrArg (fun change => change.1.map fun _ => Answer.nothing) hbulk
    refine ⟨hchannel.trans (h.dropNamed_eq indices), fun a ha b hb => ?_, ?_, fun hunsound => ?_⟩
    · rw [hchannel]
      exact h.links_dropNamed ha hb
    · refine Iff.trans ?_ (ch.no_failed_removals_iff indices)
      rw [hresult, bulkResult]
      split_ifs with hnone
      · exact iff_of_true rfl hnone
      · refine iff_of_false (fun hok => ?_) hnone
        cases hok
    · rw [hresult, bulkResult,
        if_neg fun hnone => hunsound ((ch.no_failed_removals_iff _).mp hnone)]
      rfl
  · have hbulk : ch.bulkRemoveOutputs indices =
        (.error (.invalidState "remove outputs" ch.status), ch) := by
      simp only [bulkRemoveOutputs, ensureStopped, if_neg (not_or.mpr ⟨hinactive, herror⟩)]
    exact ⟨congrArg (fun change => change.1.map fun _ => Answer.nothing) hbulk,
      congrArg Prod.snd hbulk⟩

def rowOfFour (c : Connection Simulated) : Channel :=
  let add : Operation := .addOutput .custom "" .auto {}
  [add, add, add, add, .setOutputBackup 0 1, .setOutputBackup 1 2, .setOutputBackup 2 3].foldl
    (fun ch op => (op.run ch c).channel) { id := "channel", name := "" }

/-- Both ends of the row go, and one of them is named twice besides a position that is not
there. -/
theorem bulk_removal_exact_row :
    let c : Connection Simulated := .fresh { host := "localhost", port := 8080 } (.startingAt 0)
      { username := "", password := "" }
    let ch := rowOfFour c
    let outcome := (Operation.bulkRemoveOutputs [3, 0, 3, 9]).run ch c
    (ch.status = .inactive ∧ ch.Distinct) ∧
      outcome.channel.outputs.map Output.ends = [(⟨1⟩, some ⟨2⟩, none), (⟨2⟩, none, some ⟨1⟩)] ∧
      outcome.result = .error (.bulk 2 4) ∧
      outcome.channel = { ch with
        outputs := (ch.unnamed [3, 0, 3, 9]).map
          (Output.without ((ch.named [3, 0, 3, 9]).map (·.id))) } := by
  intro c ch outcome
  have hstopped : ch.status = .inactive := by decide
  have hdistinct : ch.Distinct := by
    unfold Distinct
    decide
  obtain ⟨hremoval, _⟩ := bulk_removal_exact ch [3, 0, 3, 9] c
  obtain ⟨hchannel, _, _, hfailed⟩ := hremoval (.inl hstopped) hdistinct
  have htwo : ([3, 0, 3, 9].length - [3, 0, 3, 9].dedup.length) +
      [3, 0, 3, 9].dedup.countP ch.outside = 2 := by decide
  rw [htwo] at hfailed
  refine ⟨⟨hstopped, hdistinct⟩, ?_, hfailed (by decide), hchannel⟩
  rw [hchannel]
  decide

end Channel

end Simulcast
