import Simulcast.Proofs.Channel.Skeleton
import Simulcast.Proofs.Remote.Ids

/-!
# Outputs by position

Most of what is done to the outputs of a channel is done at one position, and leaves the others
alone. Which of them the channel wants on the air is a matter of their platforms, their positions
and whether they are enabled.
-/

namespace Simulcast

/-- What decides whether and under which id an output goes on the air. -/
def Output.face (o : Output) : Platform × Bool := (o.platform, o.enabled)

namespace Channel

def faces (ch : Channel) : List (Platform × Bool) := ch.outputs.map Output.face

/-- The channel wants the output of this id on the air. -/
def Airs (ch : Channel) (x : String) : Prop :=
  ∃ (i : Nat) (o : Output), ch.outputs[i]? = some o ∧ o.enabled = true ∧ remoteId o.platform i = x

variable {ch ch' : Channel} {index i : Nat} {f : Output → Output}

theorem getElem?_changeOutput_ne (ch : Channel) (f : Output → Output) (hi : i ≠ index) :
    (ch.changeOutput index f).outputs[i]? = ch.outputs[i]? := by
  simp [changeOutput, hi.symm]

theorem getElem?_changeOutput_eq {o : Output} (ho : ch.outputs[index]? = some o)
    (f : Output → Output) : (ch.changeOutput index f).outputs[index]? = some (f o) := by
  simp [changeOutput, ho]

theorem changeOutput_eq_self (hf : ∀ o, ch.outputs[index]? = some o → f o = o) :
    ch.changeOutput index f = ch := by
  have hsame : ch.outputs.modify index f = ch.outputs := by
    simpa using map_modify (g := fun o : Output => o) hf
  simp only [changeOutput, hsame]

theorem changeOutput_congr {g : Output → Output}
    (hfg : ∀ o, ch.outputs[index]? = some o → f o = g o) :
    ch.changeOutput index f = ch.changeOutput index g := by
  have hsame : ch.outputs.modify index f = ch.outputs.modify index g := by
    apply List.ext_getElem?
    intro i
    simp only [List.getElem?_modify]
    by_cases hi : index = i
    · subst hi
      cases ho : ch.outputs[index]? with
      | none => rfl
      | some o => simp [hfg o ho]
    · simp [hi]
  simp only [changeOutput, hsame]

theorem getElem?_changeEach {indices : List Nat} (hnodup : indices.Nodup) (f : Output → Output)
    (ch : Channel) (i : Nat) :
    (changeEach f ch indices).outputs[i]? =
      if i ∈ indices then ch.outputs[i]?.map f else ch.outputs[i]? := by
  induction indices generalizing ch with
  | nil => rfl
  | cons index rest ih =>
    obtain ⟨hnotin, hnodup⟩ := List.nodup_cons.mp hnodup
    have hcons : changeEach f ch (index :: rest) =
        changeEach f (ch.changeOutput index f) rest := rfl
    rw [hcons, ih hnodup]
    by_cases hi : i = index
    · subst hi
      simp [hnotin, changeOutput]
    · simp [hi, getElem?_changeOutput_ne ch f hi]

theorem filterMap_zipIdx {α β : Type} (f : Nat → α → Option β) (xs : List α) :
    xs.zipIdx.filterMap (fun (x, i) => f i x) =
      (List.range xs.length).filterMap fun i => xs[i]?.bind (f i) := by
  induction xs generalizing f with
  | nil => rfl
  | cons x rest ih =>
    have hrest := ih fun i => f (i + 1)
    rw [List.zipIdx_cons', List.length_cons, List.range_succ_eq_map]
    simp only [List.filterMap_cons, List.filterMap_map, List.getElem?_cons_zero, Option.bind_some]
    cases f 0 x with
    | none => exact hrest
    | some y => exact congrArg (y :: ·) hrest

theorem enabledOutputs_eq (ch : Channel) :
    ch.enabledOutputs =
      ((List.range ch.outputs.length).filter fun i => ch.outputs[i]?.any (·.enabled)).filterMap
        ch.processOutput? := by
  have hindexed := filterMap_zipIdx
    (fun i o => if o.enabled then some (ch.pushed i o) else none) ch.outputs
  rw [enabledOutputs, hindexed, List.filterMap_filter]
  refine List.filterMap_congr fun i _ => ?_
  simp only [processOutput?]
  cases ch.outputs[i]? with
  | none => rfl
  | some o => rfl

theorem airs_iff_enabledOutputs (ch : Channel) (x : String) :
    ch.Airs x ↔ x ∈ ch.enabledOutputs.map (·.id) := by
  simp only [Airs, enabledOutputs, List.mem_map, List.mem_filterMap, Prod.exists,
    List.mem_zipIdx_iff_getElem?, Option.ite_none_right_eq_some, Option.some.injEq]
  constructor
  · rintro ⟨i, o, ho, henabled, rfl⟩
    exact ⟨_, ⟨o, i, ho, henabled, rfl⟩, rfl⟩
  · rintro ⟨_, ⟨o, i, ho, henabled, rfl⟩, rfl⟩
    exact ⟨i, o, ho, henabled, rfl⟩

theorem airs_iff_faces (ch : Channel) (x : String) :
    ch.Airs x ↔
      ∃ (i : Nat) (platform : Platform), ch.faces[i]? = some (platform, true) ∧
        remoteId platform i = x := by
  simp only [Airs, faces, List.getElem?_map, Option.map_eq_some_iff, Output.face, Prod.mk.injEq]
  constructor
  · rintro ⟨i, o, ho, henabled, rfl⟩
    exact ⟨i, o.platform, ⟨o, ho, rfl, henabled⟩, rfl⟩
  · rintro ⟨i, _, ⟨o, ho, rfl, henabled⟩, rfl⟩
    exact ⟨i, o, ho, henabled, rfl⟩

theorem airs_congr (h : ch'.faces = ch.faces) (x : String) : ch'.Airs x ↔ ch.Airs x := by
  rw [airs_iff_faces, airs_iff_faces, h]

theorem faces_changeOutput (hf : ∀ o, ch.outputs[index]? = some o → (f o).face = o.face) :
    (ch.changeOutput index f).faces = ch.faces := map_modify hf

theorem faces_changeEach (hf : ∀ o, (f o).face = o.face) (ch : Channel) (indices : List Nat) :
    (changeEach f ch indices).faces = ch.faces := by
  induction indices generalizing ch with
  | nil => rfl
  | cons index rest ih => exact (ih _).trans (faces_changeOutput fun o _ => hf o)

/-- After a change at one position the channel wants that output on the air if it is enabled now,
and the others as before. -/
theorem airs_changeOutput {o : Output} (ho : ch.outputs[index]? = some o)
    (hplatform : (f o).platform = o.platform) (x : String) :
    (ch.changeOutput index f).Airs x ↔
      if x = remoteId o.platform index then (f o).enabled = true else ch.Airs x := by
  have hat := getElem?_changeOutput_eq ho f
  constructor
  · rintro ⟨i, o', ho', henabled, rfl⟩
    by_cases hi : i = index
    · subst hi
      obtain rfl : f o = o' := Option.some.inj (hat.symm.trans ho')
      rw [if_pos (by rw [hplatform])]
      exact henabled
    · rw [getElem?_changeOutput_ne ch f hi] at ho'
      rw [if_neg fun he => hi (remoteId_injective he).2]
      exact ⟨i, o', ho', henabled, rfl⟩
  · split_ifs with hx
    · intro henabled
      exact ⟨index, f o, hat, henabled, by rw [hplatform, hx]⟩
    · rintro ⟨i, o', ho', henabled, rfl⟩
      have hi : i ≠ index := by
        rintro rfl
        obtain rfl := Option.some.inj (ho.symm.trans ho')
        exact hx rfl
      exact ⟨i, o', (getElem?_changeOutput_ne ch f hi).trans ho', henabled, rfl⟩

theorem airs_enabled {o : Output} (ho : ch.outputs[index]? = some o)
    (hplatform : (f o).platform = o.platform) (henabled : (f o).enabled = true) (x : String) :
    (ch.changeOutput index f).Airs x ↔ x = remoteId o.platform index ∨ ch.Airs x := by
  rw [airs_changeOutput ho hplatform]
  split_ifs with hx
  · exact iff_of_true henabled (.inl hx)
  · exact (or_iff_right hx).symm

theorem airs_disabled {o : Output} (ho : ch.outputs[index]? = some o)
    (hplatform : (f o).platform = o.platform) (hdisabled : (f o).enabled = false) (x : String) :
    (ch.changeOutput index f).Airs x ↔ x ≠ remoteId o.platform index ∧ ch.Airs x := by
  rw [airs_changeOutput ho hplatform]
  split_ifs with hx
  · exact iff_of_false (by simp [hdisabled]) fun h => h.1 hx
  · exact (and_iff_right hx).symm

end Channel

end Simulcast
