import Simulcast.Proofs.Channel.Healthy
import Simulcast.Proofs.Channel.Looking

/-!
# Positions and their ids

The service tells the outputs of a process by ids, the channel tells them by positions. An id has
one position in it, so to look for an output by its id, or to take it off the process by its id, is
to do so by its position. A health pass that is given ids comes to what one comes to that is given
the positions.
-/

namespace Simulcast

namespace Channel

variable {ch ch' : Channel} {o : Output} {i j : Nat} {x : String} {positions : List Nat}

theorem remoteId_eq_iff {p q : Platform} : remoteId p i = remoteId q j ↔ p = q ∧ i = j := by
  refine ⟨remoteId_injective, ?_⟩
  rintro ⟨rfl, rfl⟩
  rfl

/-! ### The id at a position -/

theorem processOutput?_id (ch : Channel) (i : Nat) :
    (ch.processOutput? i).map (·.id) = ch.remoteOutputId? i := by
  rw [processOutput?, remoteOutputId?, Option.map_map]
  rfl

theorem remoteOutputId?_of_getElem? (ho : ch.outputs[i]? = some o) :
    ch.remoteOutputId? i = some (remoteId o.platform i) := by
  rw [remoteOutputId?, ho, Option.map_some]

theorem remoteOutputId?_eq_none : ch.remoteOutputId? i = none ↔ ch.outputs.length ≤ i := by
  rw [remoteOutputId?, Option.map_eq_none_iff, List.getElem?_eq_none_iff]

theorem position_unique (hi : ch.remoteOutputId? i = some x) (hj : ch.remoteOutputId? j = some x) :
    i = j := by
  obtain ⟨o, _, ho⟩ := Option.map_eq_some_iff.mp hi
  obtain ⟨o', _, ho'⟩ := Option.map_eq_some_iff.mp hj
  exact (remoteId_injective (ho.trans ho'.symm)).2

theorem remoteOutputId?_eq_iff :
    ch.remoteOutputId? i = ch.remoteOutputId? j ↔
      i = j ∨ ch.outputs.length ≤ i ∧ ch.outputs.length ≤ j := by
  constructor
  · intro h
    cases hi : ch.remoteOutputId? i with
    | none =>
      exact .inr ⟨remoteOutputId?_eq_none.mp hi, remoteOutputId?_eq_none.mp (h.symm.trans hi)⟩
    | some x => exact .inl (position_unique hi (h.symm.trans hi))
  · rintro (rfl | ⟨hi, hj⟩)
    · rfl
    · rw [remoteOutputId?_eq_none.mpr hi, remoteOutputId?_eq_none.mpr hj]

/-! ### The ids at some positions -/

def remoteIds (ch : Channel) (positions : List Nat) : List String :=
  positions.filterMap ch.remoteOutputId?

theorem mem_remoteIds (hi : ch.remoteOutputId? i = some x) :
    x ∈ ch.remoteIds positions ↔ i ∈ positions := by
  rw [remoteIds, List.mem_filterMap]
  constructor
  · rintro ⟨j, hj, hx⟩
    rwa [position_unique hi hx]
  · intro hmem
    exact ⟨i, hmem, hi⟩

theorem remoteIds_without (ch : Channel) (positions : List Nat) (i : Nat) :
    (ch.remoteIds positions).filter (ch.remoteOutputId? i != some ·) =
      ch.remoteIds (positions.filter (· != i)) := by
  rw [remoteIds, remoteIds, List.filter_filterMap, List.filterMap_filter]
  refine List.filterMap_congr fun j _ => ?_
  cases hj : ch.remoteOutputId? j with
  | none => simp
  | some x =>
    by_cases he : j = i
    · subst he
      simp [hj]
    · have hne : ch.remoteOutputId? i ≠ some x := fun hi => he (position_unique hj hi)
      simp [he, hne]

def enabledPositions (ch : Channel) : List Nat :=
  (List.range ch.outputs.length).filter fun i => ch.outputs[i]?.any (·.enabled)

theorem configured_ids (ch : Channel) :
    ch.processConfig.outputs.map (·.id) = ch.remoteIds ch.enabledPositions := by
  have houtputs : ch.processConfig.outputs = ch.enabledPositions.filterMap ch.processOutput? :=
    ch.enabledOutputs_eq
  rw [houtputs, List.map_filterMap, remoteIds]
  exact List.filterMap_congr fun i _ => ch.processOutput?_id i

/-! ### Looking for ids -/

section

variable {σ : Type} [Service σ] (checkedAt : Nat) (c : Connection σ)

/-- A look that goes by positions: the output is there if it is at one of them. -/
def lookAt (positions : List Nat) (checkedAt index : Nat) (ch : Channel) (c : Connection σ) :
    Channel × Connection σ :=
  if index ∈ positions then (ch.changeOutput index (seenAt checkedAt), c)
  else inspectOutput [] checkedAt index ch c

def lookEach (positions : List Nat) (checkedAt : Nat) :
    List Nat → Channel → Connection σ → Channel × Connection σ
  | [], ch, c => (ch, c)
  | index :: rest, ch, c =>
    match lookAt positions checkedAt index ch c with
    | (ch, c) => lookEach positions checkedAt rest ch c

theorem inspectOutput_absent {present : List String}
    (h : ∀ x, ch.remoteOutputId? i = some x → x ∉ present) :
    inspectOutput present checkedAt i ch c = inspectOutput [] checkedAt i ch c := by
  unfold inspectOutput
  cases ho : ch.outputs[i]? with
  | none => rfl
  | some o =>
    have hx : remoteId o.platform i ∉ present := h _ (remoteOutputId?_of_getElem? ho)
    simp only [if_neg hx, if_neg List.not_mem_nil]

/-- One look, where the ids may be from before the pass as long as the one at this position is the
same still. -/
theorem inspectOutput_remoteIds (positions : List Nat)
    (hsame : ch'.remoteOutputId? i = ch.remoteOutputId? i) :
    inspectOutput (ch.remoteIds positions) checkedAt i ch' c =
      lookAt positions checkedAt i ch' c := by
  unfold lookAt
  split_ifs with hi
  · refine inspectOutput_present checkedAt (fun o ho _ => ?_) c
    have hx := hsame.symm.trans (remoteOutputId?_of_getElem? ho)
    exact (mem_remoteIds hx).mpr hi
  · refine inspectOutput_absent checkedAt c fun x hx hmem => hi ?_
    exact (mem_remoteIds (hsame.symm.trans hx)).mp hmem

theorem inspectEach_remoteIds (positions : List Nat) {indices : List Nat} (hnodup : indices.Nodup)
    (hsame : ∀ i ∈ indices, ch'.remoteOutputId? i = ch.remoteOutputId? i) :
    inspectEach (ch.remoteIds positions) checkedAt indices ch' c =
      lookEach positions checkedAt indices ch' c := by
  -- The positions still to come have the outputs, so also the ids, that they began with.
  induction indices generalizing ch' c with
  | nil => rfl
  | cons index rest ih =>
    obtain ⟨hnotin, hnodup⟩ := List.nodup_cons.mp hnodup
    have hfirst := inspectOutput_remoteIds checkedAt c positions (hsame index List.mem_cons_self)
    have hwithin := inspectOutput_within c (ch.remoteIds positions) checkedAt index ch'
    rw [hfirst] at hwithin
    simp only [inspectEach, lookEach, hfirst]
    refine ih _ hnodup fun i hi => ?_
    have hne : i ∉ [index] := fun he => hnotin (List.mem_singleton.mp he ▸ hi)
    rw [remoteOutputId?, hwithin.others i hne]
    exact hsame i (List.mem_cons_of_mem _ hi)

theorem inspectAll_remoteIds (ch : Channel) (running : Bool) (positions : List Nat) :
    ch.inspectAll checkedAt running (ch.remoteIds positions) c =
      let looked := lookEach positions checkedAt (List.range ch.outputs.length) ch c
      (running && looked.1.allConnected, looked.1, looked.2) := by
  rw [inspectAll, inspectEach_remoteIds checkedAt c positions List.nodup_range fun _ _ => rfl]

end

/-- An id on the service tells the platform and the position it was built from. So the positions of
a channel have different ids, whichever way the channel builds them; a configuration lists those of
the enabled outputs, and each once; to take the id at a position off a list takes that position off
and no other; and a health pass sees the outputs at the positions whose ids it is given, and misses
the others. -/
theorem remote_ids_unambiguous :
    (∀ (p q : Platform) (i j : Nat), remoteId p i = remoteId q j ↔ p = q ∧ i = j) ∧
      ∀ ch : Channel,
        (∀ i j, ch.remoteOutputId? i = ch.remoteOutputId? j ↔
          i = j ∨ ch.outputs.length ≤ i ∧ ch.outputs.length ≤ j) ∧
        (∀ i, (ch.processOutput? i).map (·.id) = ch.remoteOutputId? i) ∧
        ch.processConfig.outputs.map (·.id) = ch.remoteIds ch.enabledPositions ∧
        (ch.processConfig.outputs.map (·.id)).Nodup ∧
        ∀ positions : List Nat,
          (∀ i, (ch.remoteIds positions).filter (ch.remoteOutputId? i != some ·) =
            ch.remoteIds (positions.filter (· != i))) ∧
          ∀ {σ : Type} [Service σ] (checkedAt : Nat) (running : Bool) (c : Connection σ),
            ch.inspectAll checkedAt running (ch.remoteIds positions) c =
              let looked := lookEach positions checkedAt (List.range ch.outputs.length) ch c
              (running && looked.1.allConnected, looked.1, looked.2) := by
  refine ⟨fun p q i j => remoteId_eq_iff, fun ch => ?_⟩
  refine ⟨fun i j => remoteOutputId?_eq_iff, ch.processOutput?_id, ch.configured_ids,
    ch.nodup_enabledOutputs, fun positions => ⟨ch.remoteIds_without positions, ?_⟩⟩
  intro σ _ checkedAt running c
  exact inspectAll_remoteIds checkedAt c ch running positions

end Channel

end Simulcast
