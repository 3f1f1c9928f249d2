import Simulcast.Proofs.Channel.Settled
import Simulcast.Proofs.Process.Upheld
import Simulcast.Proofs.Studio.Operations

/-!
# Accounting for the processes of the service

The processes of the service are accounted for by the channels of a studio: each is that of a
channel that refers to it and runs, or was abandoned and has finished. Each move over the channels
keeps the account, and so does adding a channel of an id that was never used.
-/

namespace Simulcast

namespace Studio

open Simulated (Alike)

/-- The processes of the service are accounted for by the channels of the studio, by the ids of
those whose processes were abandoned, and by nothing else. -/
structure Accounted (used left : List String) (channels : List Channel)
    (c : Connection Simulated) : Prop where
  tidy : c.remote.Tidy
  ids : (channels.map (·.id)).Nodup
  known : ∀ ch ∈ channels, ch.id ∈ used
  settled : ∀ ch ∈ channels, ch.Settled
  tie : ∀ ch ∈ channels, Tie ch c.remote (decide (ch.id ∈ left))
  rest : ∀ id, (∀ ch ∈ channels, ch.id ≠ id) →
    c.remote.states id = if id ∈ left then [ProcessInfo.finishedState] else []
  lost : ∀ id ∈ left, id ∈ used

namespace Accounted

variable {used left : List String} {channels : List Channel} {c : Connection Simulated}

theorem start (hempty : c.remote.processes = []) : Accounted [] [] [] c := by
  have htidy : c.remote.Tidy := by
    refine ⟨⟨?_, ?_, ?_⟩, ?_⟩ <;> simp [hempty]
  have hstates : ∀ id, c.remote.states id = [] := by
    intro id
    simp [Simulated.states, Simulated.held, hempty]
  refine ⟨htidy, List.nodup_nil, ?_, ?_, ?_, ?_, ?_⟩ <;> simp [hstates]

theorem meet (h : Accounted used left channels c) {c' : Connection Simulated}
    (htidy : c'.remote.Tidy) (hstates : ∀ r, c'.remote.states r = c.remote.states r) :
    Accounted used left channels c' where
  tidy := htidy
  ids := h.ids
  known := h.known
  settled := h.settled
  tie := fun ch hch => (h.tie ch hch).congr rfl rfl (hstates ch.id)
  rest := fun id hid => (hstates id).trans (h.rest id hid)
  lost := h.lost

theorem of_alike (h : Accounted used left channels c) {c' : Connection Simulated}
    (halike : Alike c.remote c'.remote) : Accounted used left channels c' :=
  h.meet (halike.tidy h.tidy) halike.states

theorem use (h : Accounted used left channels c) (more : List String) :
    Accounted (used ++ more) left channels c :=
  { h with
    known := fun ch hch => List.mem_append_left more (h.known ch hch)
    lost := fun id hid => List.mem_append_left more (h.lost id hid) }

end Accounted

end Studio

theorem Confined.held {reference r : String} {s t : Simulated} (h : Confined reference s t)
    (hr : r ≠ reference) : t.held r = s.held r := by
  have hheld (v : Simulated) : v.held r = (v.others reference).filter (·.info.reference == r) := by
    rw [Simulated.others, List.filter_filter]
    refine List.filter_congr fun p _ => ?_
    by_cases hp : p.info.reference = r
    · simp [hp, hr]
    · simp [hp]
  rw [hheld, hheld, h.others]

theorem Confined.states {reference r : String} {s t : Simulated} (h : Confined reference s t)
    (hr : r ≠ reference) : t.states r = s.states r := congrArg (List.map _) (h.held hr)

namespace Studio

theorem mem_abandoned {op : Channel.Operation} {ch : Channel} {c : Connection Simulated}
    {id : String} : id ∈ op.abandoned ch c ↔ op.abandons ch c = true ∧ id = ch.id := by
  unfold Channel.Operation.abandoned
  split_ifs with h <;> simp [h]

namespace Accounted

variable {used left : List String} {before after : List Channel} {ch : Channel}
  {c : Connection Simulated}

theorem apart (h : Accounted used left (before ++ ch :: after) c) :
    (∀ x ∈ before ++ after, x.id ≠ ch.id) ∧ ((before ++ after).map (·.id)).Nodup := by
  have hids := h.ids
  rw [List.map_append, List.map_cons, List.nodup_middle, ← List.map_append, List.nodup_cons] at hids
  exact ⟨fun x hx he => hids.1 (List.mem_map.mpr ⟨x, hx, he⟩), hids.2⟩

theorem run (h : Accounted used left (before ++ ch :: after) c) (op : Channel.Operation) :
    Accounted used (left ++ op.abandoned ch c) (before ++ (op.run ch c).channel :: after)
      (op.run ch c).connection := by
  obtain ⟨hknown, known⟩ := forall_split.mp h.known
  obtain ⟨hsettled, settled⟩ := forall_split.mp h.settled
  obtain ⟨htie, tie⟩ := forall_split.mp h.tie
  have hup := op.upheld h.tidy htie
  have hid := op.id_run ch c
  have hleft : ∀ id, id ≠ ch.id → (id ∈ left ++ op.abandoned ch c ↔ id ∈ left) := by
    intro id hne
    simp [mem_abandoned, hne]
  refine ⟨hup.tidy, ?_, forall_split.mpr ⟨hid ▸ hknown, known⟩,
    forall_split.mpr ⟨hsettled.run op c, settled⟩, forall_split.mpr ⟨?_, fun x hx => ?_⟩,
    fun id hno => ?_, fun id hmem => ?_⟩
  · rw [List.map_append, List.map_cons, hid, ← List.map_cons, ← List.map_append]
    exact h.ids
  · have hflag : decide ((op.run ch c).channel.id ∈ left ++ op.abandoned ch c) =
        (decide (ch.id ∈ left) || op.abandons ch c) := by
      simp [hid, mem_abandoned]
    rw [hflag]
    exact hup.tie
  · have hne := h.apart.1 x hx
    rw [decide_eq_decide.mpr (hleft x.id hne)]
    exact (tie x hx).congr rfl rfl (hup.states hne)
  · obtain ⟨hne, hothers⟩ := forall_split.mp hno
    rw [hid] at hne
    rw [hup.states hne.symm, if_congr (hleft id hne.symm) rfl rfl]
    exact h.rest id (forall_split.mpr ⟨hne, hothers⟩)
  · obtain hmem | hmem := List.mem_append.mp hmem
    · exact h.lost id hmem
    · rw [(mem_abandoned.mp hmem).2]
      exact hknown

theorem drop (h : Accounted used left (before ++ ch :: after) c) (hidle : ch.status = .inactive) :
    Accounted used left (before ++ after) c := by
  obtain ⟨hsettled, settled⟩ := forall_split.mp h.settled
  obtain ⟨htie, tie⟩ := forall_split.mp h.tie
  have hstates : c.remote.states ch.id =
      if ch.id ∈ left then [ProcessInfo.finishedState] else [] := by
    simpa using htie.idle (hsettled.idle hidle)
  refine ⟨h.tidy, h.apart.2, (forall_split.mp h.known).2, settled, tie, fun id hno => ?_, h.lost⟩
  by_cases hid : ch.id = id
  · exact hid ▸ hstates
  · exact h.rest id (forall_split.mpr ⟨hid, hno⟩)

theorem add {channels : List Channel} (h : Accounted used left channels c) (ch : Channel)
    (hnew : ch.id ∉ used) (hs : ch.Settled) (hp : ch.processReference = none) :
    Accounted (used ++ [ch.id]) left (channels ++ [ch]) c := by
  have hother : ∀ x ∈ channels, x.id ≠ ch.id := fun x hx he => hnew (he ▸ h.known x hx)
  have hleft : ch.id ∉ left := fun hl => hnew (h.lost _ hl)
  have hstates : c.remote.states ch.id = [] := (h.rest ch.id hother).trans (if_neg hleft)
  have hsplit : ∀ x ∈ channels ++ [ch], x ∈ channels ∨ x = ch := by
    simp
  constructor
  · exact h.tidy
  · exact nodup_names_append h.ids hother
  · intro x hx
    obtain hx | rfl := hsplit x hx
    · exact List.mem_append_left _ (h.known x hx)
    · exact List.mem_append_right _ (List.mem_singleton_self _)
  · intro x hx
    obtain hx | rfl := hsplit x hx
    · exact h.settled x hx
    · exact hs
  · intro x hx
    obtain hx | rfl := hsplit x hx
    · exact h.tie x hx
    · rw [decide_eq_false hleft]
      exact .free hp hstates
  · exact fun id hno => h.rest id fun x hx => hno x (List.mem_append_left _ hx)
  · exact fun id hid => List.mem_append_left _ (h.lost id hid)

theorem moves {s t : List Channel × Connection Simulated} {abandoned : List String}
    (hm : Moves s abandoned t) {left : List String} (h : Accounted used left s.1 s.2) :
    Accounted used (left ++ abandoned) t.1 t.2 := by
  induction hm generalizing left with
  | none s =>
    rw [List.append_nil]
    exact h
  | more hfirst _ ih =>
    rw [← List.append_assoc]
    apply ih
    cases hfirst with
    | run before after ch op c => exact h.run op
    | drop before after ch c hidle =>
      rw [List.append_nil]
      exact h.drop hidle

theorem operation {s : Studio Simulated} (h : Accounted used left s.channels s.connection)
    (op : Operation) (hnew : ∀ id ∈ op.generated s, id ∉ used) :
    Accounted (used ++ op.generated s) (left ++ op.abandoned s) (op.run s).studio.channels
      (op.run s).studio.connection := by
  obtain ⟨hgen, hmoves⟩ | ⟨added, hadded, hgen, hnone, hs⟩ := op.moves_or_adds s
  · rw [hgen, List.append_nil]
    exact h.moves hmoves
  · rw [hgen] at hnew
    have hid := hnew added.id (List.mem_singleton_self _)
    rw [hgen, hnone, hs, List.append_nil]
    cases hadded with
    | new id name => exact h.add _ hid (Channel.settled_new id name) rfl
    | copy _ id name => exact h.add _ hid (Channel.settled_duplicate _ id name) rfl

end Accounted

end Studio

end Simulcast
