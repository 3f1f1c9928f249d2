import Mathlib.Data.Finset.Card
import Simulcast.Proofs.Backup.Sound

/-!
# When a backup may be set

Before a link is set, a walk along the backup links looks for the way back. In a sound graph it
meets at most as many outputs as there are, so the bound on its steps cuts none short, and it says
that there is a way exactly when there is one. In a graph that is not sound the bound makes it end.
-/

namespace Simulcast

def Output.bare (o : Output) : Output := { o with backup := none, primary := none }

theorem Output.linked_bare (p b : OutputId) (o : Output) : (o.linked p b).bare = o.bare := rfl

namespace Channel

open Relation

/-! ### The walk -/

/-- Where a walk along the backup links stands, and how many outputs it left behind. -/
structure Walk where
  current : Option OutputId
  passed : Nat

def walkOn (ch : Channel) (target : OutputId) (w : Walk) : Bool ⊕ Walk :=
  match w.current with
  | none => .inl false
  | some id =>
    if id = target then .inl true
    else if ch.outputs.length < w.passed + 1 then .inl true
    else .inr ⟨ch.backupOf? id, w.passed + 1⟩

/-- The answer of a walk that ends within so many turns. -/
def walkFor (ch : Channel) (target : OutputId) : (turns : Nat) → Walk → Option Bool
  | 0, _ => none
  | turns + 1, w =>
    match ch.walkOn target w with
    | .inl answer => some answer
    | .inr next => ch.walkFor target turns next

theorem walkFor_eq_chainMeets (ch : Channel) (target : OutputId) {steps passed : Nat}
    (hsteps : passed + steps = ch.outputs.length) (id : OutputId) :
    ch.walkFor target (steps + 1) ⟨some id, passed⟩ = some (ch.chainMeets target steps id) := by
  induction steps generalizing passed id with
  | zero =>
    have hlast : ch.outputs.length < passed + 1 := by omega
    by_cases hid : id = target
    · simp [walkFor, walkOn, chainMeets, hid]
    · simp [walkFor, walkOn, chainMeets, hid, hlast]
  | succ steps ih =>
    have hmore : ¬ ch.outputs.length < passed + 1 := by omega
    rw [walkFor, chainMeets]
    by_cases hid : id = target
    · simp [walkOn, hid]
    · simp only [walkOn, if_neg hid, if_neg hmore, beq_false_of_ne hid, Bool.false_or]
      cases ch.backupOf? id with
      | none => simp [walkFor, walkOn]
      | some next => exact ih (by omega) next

theorem walk_ends (ch : Channel) (start target : OutputId) :
    ch.walkFor target (ch.outputs.length + 1) ⟨some start, 0⟩ =
      some (ch.chainMeets target ch.outputs.length start) :=
  ch.walkFor_eq_chainMeets target (Nat.zero_add _) start

/-! ### What the walk finds -/

theorem backupAfter_of_chainMeets {ch : Channel} {target : OutputId} {steps : Nat} {id : OutputId}
    (h : ch.chainMeets target steps id = true) :
    (∃ n, ch.backupAfter n id = some target) ∨ (ch.backupAfter steps id).isSome := by
  induction steps generalizing id with
  | zero => exact .inr rfl
  | succ steps ih =>
    rw [chainMeets, Bool.or_eq_true] at h
    obtain hid | hrest := h
    · exact .inl ⟨0, congrArg some (beq_iff_eq.mp hid)⟩
    · cases hnext : ch.backupOf? id with
      | none => simp [hnext] at hrest
      | some next =>
        simp only [hnext] at hrest
        have hon (n : Nat) : ch.backupAfter (n + 1) id = ch.backupAfter n next := by
          rw [backupAfter, hnext, Option.bind_some]
        rw [hon]
        obtain ⟨n, hn⟩ | hlong := ih hrest
        · exact .inl ⟨n + 1, (hon n).trans hn⟩
        · exact .inr hlong

theorem Wired.backupAfter_mem {ch : Channel} (h : ch.Wired) {o : Output} (ho : o ∈ ch.outputs)
    {n : Nat} {id : OutputId} (hn : ch.backupAfter n o.id = some id) :
    id ∈ ch.outputs.map (·.id) := by
  cases n with
  | zero =>
    cases hn
    exact List.mem_map_of_mem ho
  | succ n =>
    rw [backupAfter_add] at hn
    obtain ⟨last, _, hlast⟩ := Option.bind_eq_some_iff.mp hn
    obtain ⟨next, hnext, hid⟩ := Option.bind_eq_some_iff.mp hlast
    cases hid
    obtain ⟨o', ho', rfl, _⟩ := (h.symm _ _).mp (h.distinct.backupOf?_eq_some.mp hnext)
    exact List.mem_map_of_mem ho'

theorem Wired.backupAfter_length {ch : Channel} (h : ch.Wired) {o : Output} (ho : o ∈ ch.outputs) :
    ch.backupAfter ch.outputs.length o.id = none := by
  by_contra hlong
  obtain ⟨last, hlast⟩ := Option.ne_none_iff_exists'.mp hlong
  have hstep (i : Nat) (hi : i ≤ ch.outputs.length) :
      ∃ id, ch.backupAfter i o.id = some id := by
    obtain ⟨j, hj⟩ := Nat.exists_eq_add_of_le hi
    rw [hj, backupAfter_add] at hlast
    obtain ⟨id, hid, _⟩ := Option.bind_eq_some_iff.mp hlast
    exact ⟨id, hid⟩
  -- One output more than there are would be met, so some output would be met twice.
  let ids := (ch.outputs.map fun o => some o.id).toFinset
  have hfew : ids.card < (Finset.range (ch.outputs.length + 1)).card := by
    rw [Finset.card_range, Nat.lt_succ_iff]
    simpa using List.toFinset_card_le (ch.outputs.map fun o => some o.id)
  have hmaps : ∀ i ∈ Finset.range (ch.outputs.length + 1), ch.backupAfter i o.id ∈ ids := by
    intro i hi
    obtain ⟨id, hid⟩ := hstep i (Nat.lt_succ_iff.mp (Finset.mem_range.mp hi))
    obtain ⟨o', ho', rfl⟩ := List.mem_map.mp (h.backupAfter_mem ho hid)
    rw [hid, List.mem_toFinset]
    exact List.mem_map_of_mem ho'
  obtain ⟨i, hi, j, hj, hij, hsame⟩ :=
    Finset.exists_ne_map_eq_of_card_lt_of_maps_to hfew hmaps
  have again {i j : Nat} (hi : i ∈ Finset.range (ch.outputs.length + 1)) (hij : i < j)
      (hsame : ch.backupAfter i o.id = ch.backupAfter j o.id) : False := by
    obtain ⟨id, hid⟩ := hstep i (Nat.lt_succ_iff.mp (Finset.mem_range.mp hi))
    exact h.backupAfter_ne hij hid (hsame ▸ hid)
  obtain hlt | hgt := Nat.lt_or_gt_of_ne hij
  · exact again hi hlt hsame
  · exact again hj hgt hsame.symm

theorem Wired.chainMeets_iff {ch : Channel} (h : ch.Wired) {o : Output} (ho : o ∈ ch.outputs)
    (target : OutputId) :
    ch.chainMeets target ch.outputs.length o.id = true ↔ ReflTransGen ch.HasBackup o.id target := by
  constructor
  · intro hmeets
    obtain ⟨n, hn⟩ | hlong := backupAfter_of_chainMeets hmeets
    · cases n with
      | zero =>
        cases hn
        exact .refl
      | succ n => exact (h.distinct.path_of_backupAfter hn).to_reflTransGen
    · simp [h.backupAfter_length ho] at hlong
  · intro hreach
    by_contra hmeets
    exact not_reaches_of_chainMeets h.distinct (Bool.eq_false_iff.mpr hmeets) hreach

/-! ### Setting a backup -/

section

variable {ch : Channel} {primary backup : Nat} {p b : Output}

theorem Wired.setOutputBackup_eq (h : ch.Wired) (hp : ch.outputs[primary]? = some p)
    (hb : ch.outputs[backup]? = some b) (hne : primary ≠ backup) :
    (TransGen ch.HasBackup b.id p.id ∧
        ch.setOutputBackup primary backup = .error (.backupCycle primary backup)) ∨
      (¬ TransGen ch.HasBackup b.id p.id ∧
        ((p.backup = some b.id ∧ ch.setOutputBackup primary backup = .ok ch) ∨
          ch.setOutputBackup primary backup =
            .ok (ch.changeOutputs (Output.linked p.id b.id)))) := by
  have hids : p.id ≠ b.id := fun he => hne (h.distinct.index_eq hp hb he)
  have hway := h.chainMeets_iff (List.mem_of_getElem? hb) p.id
  rw [reflTransGen_iff_eq_or_transGen, or_iff_right hids] at hway
  simp only [setOutputBackup, hp, hb, if_neg hne]
  by_cases hold : p.backup = some b.id
  · have hedge : ch.HasBackup p.id b.id := ⟨p, List.mem_of_getElem? hp, rfl, hold⟩
    exact .inr ⟨fun hback => h.acyclic p.id (.head hedge hback), .inl ⟨hold, if_pos hold⟩⟩
  · by_cases hmeets : ch.chainMeets p.id ch.outputs.length b.id = true
    · exact .inl ⟨hway.mp hmeets, by rw [if_neg hold, if_pos hmeets]⟩
    · refine .inr ⟨fun hback => hmeets (hway.mpr hback), .inr ?_⟩
      rw [if_neg hold, if_neg hmeets, h.link_eq hp hb hids hold]

/-- After `b` became the backup of `p`, the links are this one and the old ones that do not leave
`p` and do not lead to `b`. -/
theorem links_linked (hp : p ∈ ch.outputs) (hb : b ∈ ch.outputs) (x y : OutputId) :
    ((ch.changeOutputs (Output.linked p.id b.id)).HasBackup x y ↔
        (x = p.id ∧ y = b.id) ∨ (ch.HasBackup x y ∧ x ≠ p.id ∧ y ≠ b.id)) ∧
      ((ch.changeOutputs (Output.linked p.id b.id)).HasPrimary y x ↔
        (y = b.id ∧ x = p.id) ∨ (ch.HasPrimary y x ∧ y ≠ b.id ∧ x ≠ p.id)) :=
  ⟨links_set (Output.linked_id p.id b.id) hp (fun _ => rfl) x y,
    links_set (Output.linked_id p.id b.id) hb (fun _ => rfl) y x⟩

theorem Wired.links_same (h : ch.Wired) (hpb : ch.HasBackup p.id b.id) (x y : OutputId) :
    ch.HasBackup x y ↔ (x = p.id ∧ y = b.id) ∨ (ch.HasBackup x y ∧ x ≠ p.id ∧ y ≠ b.id) := by
  constructor
  · intro hxy
    by_cases hx : x = p.id
    · subst hx
      exact .inl ⟨rfl, h.distinct.links_unique hxy hpb⟩
    · refine .inr ⟨hxy, hx, ?_⟩
      rintro rfl
      exact hx (h.distinct.links_unique ((h.symm _ _).mp hxy) ((h.symm _ _).mp hpb))
  · rintro (⟨rfl, rfl⟩ | ⟨hxy, _⟩)
    · exact hpb
    · exact hxy

theorem setOutputBackup_outside
    (h : ch.outputs.length ≤ primary ∨ ch.outputs.length ≤ backup) :
    ch.setOutputBackup primary backup =
      .error (ch.noOutput (if primary < ch.outputs.length then backup else primary)) := by
  by_cases hlt : primary < ch.outputs.length
  · have hb : ch.outputs[backup]? = none := List.getElem?_eq_none (by omega)
    simp only [setOutputBackup, List.getElem?_eq_getElem hlt, hb, if_pos hlt]
  · have hp : ch.outputs[primary]? = none := List.getElem?_eq_none (by omega)
    simp only [setOutputBackup, hp, if_neg hlt]

theorem Wired.setOutputBackup_cases (h : ch.Wired) (hp : ch.outputs[primary]? = some p)
    (hb : ch.outputs[backup]? = some b) :
    (primary = backup ∧ ch.setOutputBackup primary backup = .error (.selfBackup primary)) ∨
      (primary ≠ backup ∧ TransGen ch.HasBackup b.id p.id ∧
        ch.setOutputBackup primary backup = .error (.backupCycle primary backup)) ∨
      (primary ≠ backup ∧ ¬ TransGen ch.HasBackup b.id p.id ∧
        ∃ ch', ch.setOutputBackup primary backup = .ok ch') := by
  by_cases hne : primary = backup
  · exact .inl ⟨hne, by simp [setOutputBackup, hb, hne]⟩
  · obtain ⟨hway, hcycle⟩ | ⟨hno, ⟨_, hsame⟩ | hnew⟩ := h.setOutputBackup_eq hp hb hne
    · exact .inr (.inl ⟨hne, hway, hcycle⟩)
    · exact .inr (.inr ⟨hne, hno, _, hsame⟩)
    · exact .inr (.inr ⟨hne, hno, _, hnew⟩)

/-- All that is different once `b` is the backup of `p`: the links that left `p` or led to `b` are
gone, the new one is there, at both of its ends, and nothing else changed. -/
structure Relinked (ch ch' : Channel) (p b : OutputId) : Prop where
  rest : { ch' with outputs := ch'.outputs.map Output.bare } =
    { ch with outputs := ch.outputs.map Output.bare }
  backups : ∀ x y, ch'.HasBackup x y ↔ (x = p ∧ y = b) ∨ (ch.HasBackup x y ∧ x ≠ p ∧ y ≠ b)
  primaries : ∀ x y, ch'.HasPrimary y x ↔ ch'.HasBackup x y

theorem Wired.relinked_linked (h : ch.Wired) (hp : p ∈ ch.outputs) (hb : b ∈ ch.outputs) :
    ch.Relinked (ch.changeOutputs (Output.linked p.id b.id)) p.id b.id where
  rest := by
    have hbare : Output.bare ∘ Output.linked p.id b.id = Output.bare :=
      funext (Output.linked_bare p.id b.id)
    simp only [changeOutputs, List.map_map, hbare]
  backups := fun x y => (links_linked hp hb x y).1
  primaries := by
    intro x y
    rw [(links_linked hp hb x y).1, (links_linked hp hb x y).2, h.symm x y]
    exact or_congr and_comm (and_congr_right' and_comm)

theorem Wired.setOutputBackup_relinked (h : ch.Wired) (hp : ch.outputs[primary]? = some p)
    (hb : ch.outputs[backup]? = some b) {ch' : Channel}
    (hs : ch.setOutputBackup primary backup = .ok ch') : ch.Relinked ch' p.id b.id := by
  by_cases hne : primary = backup
  · simp [setOutputBackup, hb, hne] at hs
  · have hmem := List.mem_of_getElem? hp
    obtain ⟨_, hcycle⟩ | ⟨_, ⟨hold, hsame⟩ | hnew⟩ := h.setOutputBackup_eq hp hb hne
    · cases hs.symm.trans hcycle
    · cases hs.symm.trans hsame
      have hedge : ch.HasBackup p.id b.id := ⟨p, hmem, rfl, hold⟩
      exact ⟨rfl, h.links_same hedge, fun x y => (h.symm x y).symm⟩
    · cases hs.symm.trans hnew
      exact h.relinked_linked hmem (List.mem_of_getElem? hb)

end

/-- In a sound backup graph, a backup is refused for a position without an output, for an output as
its own backup, and when the backup links lead from the backup to the primary, in this order and for
no other reason. A refusal leaves the channel as it is, and a backup that is set changes the links
and nothing else. The walk that looks for the way back ends in any graph, sound or not. -/
theorem backup_set_exactly {σ : Type} [Service σ] :
    (∀ ch : Channel, ch.Wired → ∀ (primary backup : Nat) (c : Connection σ),
      let outcome := (Operation.setOutputBackup primary backup).run ch c
      let outside := if primary < ch.outputs.length then backup else primary
      (outcome.result = .error (.invalidOutputIndex outside ch.outputs.length) ↔
        ch.outputs.length ≤ primary ∨ ch.outputs.length ≤ backup) ∧
      (∀ p b, ch.outputs[primary]? = some p → ch.outputs[backup]? = some b →
        (outcome.result = .error (.selfBackup primary) ↔ primary = backup) ∧
        (primary ≠ backup →
          (outcome.result = .error (.backupCycle primary backup) ↔
            TransGen ch.HasBackup b.id p.id) ∧
          (outcome.result = .ok .nothing ↔ ¬ TransGen ch.HasBackup b.id p.id)) ∧
        (outcome.result = .ok .nothing → ch.Relinked outcome.channel p.id b.id)) ∧
      ∀ error, outcome.result = .error error → outcome.channel = ch) ∧
    ∀ (ch : Channel) (start target : OutputId),
      ch.walkFor target (ch.outputs.length + 1) ⟨some start, 0⟩ =
        some (ch.chainMeets target ch.outputs.length start) := by
  refine ⟨fun ch h primary backup c => ?_, walk_ends⟩
  intro outcome outside
  have hedited : outcome = Outcome.edited ch (ch.setOutputBackup primary backup) c := rfl
  refine ⟨⟨fun hout => ?_, fun hout => ?_⟩, fun p b hp hb => ?_, fun error herror => ?_⟩
  · by_contra hin
    obtain ⟨hprimary, hbackup⟩ := not_or.mp hin
    have hp := List.getElem?_eq_getElem (Nat.lt_of_not_le hprimary)
    have hb := List.getElem?_eq_getElem (Nat.lt_of_not_le hbackup)
    rw [hedited] at hout
    obtain ⟨_, hs⟩ | ⟨_, _, hs⟩ | ⟨_, _, ch', hs⟩ := h.setOutputBackup_cases hp hb <;>
      simp [hs, Outcome.edited, Outcome.changed] at hout
  · rw [hedited, setOutputBackup_outside hout]
    rfl
  · refine ⟨?_, fun hne => ?_, fun hok => ?_⟩
    · obtain ⟨he, hs⟩ | ⟨hne, _, hs⟩ | ⟨hne, _, ch', hs⟩ := h.setOutputBackup_cases hp hb
      · exact iff_of_true (by rw [hedited, hs]; rfl) he
      · exact iff_of_false (by simp [hedited, hs, Outcome.edited]) hne
      · exact iff_of_false (by simp [hedited, hs, Outcome.edited, Outcome.changed]) hne
    · obtain ⟨he, _⟩ | ⟨_, hway, hs⟩ | ⟨_, hno, ch', hs⟩ := h.setOutputBackup_cases hp hb
      · exact (hne he).elim
      · simp [hedited, hs, Outcome.edited, hway]
      · simp [hedited, hs, Outcome.edited, Outcome.changed, hno]
    · cases hs : ch.setOutputBackup primary backup with
      | error error =>
        rw [hedited, hs] at hok
        cases hok
      | ok ch' =>
        rw [hedited, hs]
        exact h.setOutputBackup_relinked hp hb hs
  · cases hs : ch.setOutputBackup primary backup with
    | error error' =>
      rw [hedited, hs]
      rfl
    | ok ch' =>
      rw [hedited, hs] at herror
      cases herror

def chained (c : Connection Simulated) : Channel :=
  [.addOutput .custom "" .auto {}, .addOutput .custom "" .auto {}, .addOutput .custom "" .auto {},
    .setOutputBackup 0 1, .setOutputBackup 1 2].foldl
      (fun ch (op : Operation) => (op.run ch c).channel) { id := "channel", name := "" }

theorem chained_reachable (c : Connection Simulated) : Reachable Simulated (chained c) :=
  .runs (.new "channel" "") _ c

/-- The chain cannot be closed, and a shorter way to its end takes both old links away. -/
theorem backup_set_exactly_chained :
    let c : Connection Simulated := .fresh { host := "localhost", port := 8080 } (.startingAt 0)
      { username := "", password := "" }
    let ch := chained c
    let shortened := (Operation.setOutputBackup 0 2).run ch c
    ch.Wired ∧ ∀ first last, ch.outputs[0]? = some first → ch.outputs[2]? = some last →
      TransGen ch.HasBackup first.id last.id ∧
      ((Operation.setOutputBackup 2 0).run ch c).result = .error (.backupCycle 2 0) ∧
      shortened.result = .ok .nothing ∧ ch.Relinked shortened.channel first.id last.id ∧
      shortened.channel.outputs.map (·.backup) = [some ⟨2⟩, none, none] := by
  intro c ch shortened
  have hwired : ch.Wired := (chained_reachable c).linked.wired
  refine ⟨hwired, fun first last hfirst hlast => ?_⟩
  have hcycle : ((Operation.setOutputBackup 2 0).run ch c).result = .error (.backupCycle 2 0) := by
    decide
  have hok : shortened.result = .ok .nothing := by decide
  have hexact := (@backup_set_exactly Simulated _).1 ch hwired
  obtain ⟨_, hclosing, _⟩ := hexact 2 0 c
  obtain ⟨_, hshortening, _⟩ := hexact 0 2 c
  have hway := ((hclosing last first hlast hfirst).2.1 (by decide)).1.mp hcycle
  exact ⟨hway, hcycle, hok, (hshortening first last hfirst hlast).2.2 hok, by decide⟩

end Channel

end Simulcast
