import Mathlib.Tactic.SplitIfs
import Simulcast.Proofs.Yaml.Same

/-!
# Entries under any key

Two keys can be the same without being equal. When no mapping in a key has a key twice, a lookup
still finds what was changed or put under a key, and what is under another key stays as it is.
-/

namespace Simulcast.Yaml

open Value

namespace Entries

variable {entries : Entries} {k key v new : Value} {change : Value → Value}

theorem get?_upsert_same (hkeys : ∀ e ∈ entries, UniqueKeys e.1) (hk : UniqueKeys k)
    (hsame : k.same key = true) :
    get? (upsert k change new entries) key = some ((get? entries key).elim new change) := by
  induction entries with
  | nil =>
    change get? [(k, new)] key = some new
    rw [get?_cons, if_pos hsame]
  | cons entry entries ih =>
    obtain ⟨k', v⟩ := entry
    obtain ⟨hk', hrest⟩ := List.forall_mem_cons.1 hkeys
    rw [upsert_cons, get?_cons]
    by_cases hfirst : k'.same k = true
    · have hkey := hk'.same_trans hfirst hsame
      rw [if_pos hfirst, if_pos hkey, get?_cons, if_pos hkey]
      rfl
    · have hkey : ¬ k'.same key = true := fun h =>
        hfirst (hk'.same_trans h (hk.same_symm hsame))
      rw [if_neg hfirst, if_neg hkey, get?_cons, if_neg hkey, ih hrest]

theorem get?_upsert_other (hkeys : ∀ e ∈ entries, UniqueKeys e.1) (hk : UniqueKeys k)
    (hother : ¬ k.same key = true) :
    get? (upsert k change new entries) key = get? entries key := by
  induction entries with
  | nil =>
    change get? [(k, new)] key = none
    rw [get?_cons, if_neg hother]
    rfl
  | cons entry entries ih =>
    obtain ⟨k', v⟩ := entry
    obtain ⟨hk', hrest⟩ := List.forall_mem_cons.1 hkeys
    rw [upsert_cons]
    by_cases hfirst : k'.same k = true
    · have hkey : ¬ k'.same key = true := fun h =>
        hother (hk.same_trans (hk'.same_symm hfirst) h)
      rw [if_pos hfirst, get?_cons, get?_cons, if_neg hkey, if_neg hkey]
    · rw [if_neg hfirst, get?_cons, get?_cons, ih hrest]

theorem keys_upsert (k : Value) (change : Value → Value) (new : Value) (entries : Entries) :
    (upsert k change new entries).map (·.1) =
      entries.map (·.1) ++ if has entries k then [] else [k] := by
  induction entries with
  | nil => rfl
  | cons entry entries ih =>
    obtain ⟨k', v⟩ := entry
    rw [upsert_cons, has_cons]
    cases hsame : k'.same k with
    | true => simp
    | false => simp [ih]

theorem uniqueKeys_upsert {change : Value → Value} {new : Value}
    (hkeys : ∀ e ∈ entries, UniqueKeys e.1) (hk : UniqueKeys k) :
    ∀ e ∈ upsert k change new entries, UniqueKeys e.1 := by
  intro e he
  have hmem := List.mem_map_of_mem (f := (·.1)) he
  rw [keys_upsert, List.mem_append] at hmem
  obtain hold | hnew := hmem
  · obtain ⟨e', he', heq⟩ := List.mem_map.1 hold
    exact heq ▸ hkeys e' he'
  · split_ifs at hnew
    · cases hnew
    · exact List.mem_singleton.1 hnew ▸ hk

theorem has_upsert_other (hother : k.same key = false) :
    has (upsert k change new entries) key = has entries key := by
  induction entries with
  | nil =>
    change has [(k, new)] key = false
    rw [has_cons, hother]
    rfl
  | cons entry entries ih =>
    obtain ⟨k', v⟩ := entry
    rw [upsert_cons]
    split_ifs
    · rfl
    · rw [has_cons, has_cons, ih]

theorem get?_of_mem (hdiffer : entries.Pairwise fun e e' => e.1.same e'.1 = false)
    (hkeys : ∀ e ∈ entries, UniqueKeys e.1) (h : (k, v) ∈ entries) :
    get? entries k = some v := by
  induction entries with
  | nil => cases h
  | cons entry rest ih =>
    obtain ⟨hother, hrestdiffer⟩ := List.pairwise_cons.1 hdiffer
    obtain ⟨hk, hrest⟩ := List.forall_mem_cons.1 hkeys
    obtain rfl | hmem := List.mem_cons.1 h
    · rw [get?_cons, if_pos hk.same_refl]
    · rw [get?_cons, hother _ hmem]
      exact ih hrestdiffer hrest hmem

end Entries

namespace Value.UniqueKeys

variable {before entries : Entries} {key value : Value}

theorem snoc (h : (Value.mapping before).UniqueKeys) (hkey : key.UniqueKeys)
    (hvalue : value.UniqueKeys) (hnew : Entries.has before key = false) :
    (Value.mapping (before ++ [(key, value)])).UniqueKeys := by
  obtain ⟨hdiffer, hkeys, hvalues⟩ := h.of_mapping
  refine .mapping ?_ ?_ ?_
  · refine List.pairwise_append.2 ⟨hdiffer, List.pairwise_singleton _ _, fun e he e' he' => ?_⟩
    obtain rfl := List.mem_singleton.1 he'
    exact Entries.has_eq_false.1 hnew e he
  · exact List.forall_mem_append.2 ⟨hkeys, List.forall_mem_singleton.2 hkey⟩
  · exact List.forall_mem_append.2 ⟨hvalues, List.forall_mem_singleton.2 hvalue⟩

theorem insert (h : (Value.mapping entries).UniqueKeys) (hkey : key.UniqueKeys)
    (hvalue : value.UniqueKeys) :
    (Value.mapping (Entries.insert entries key value)).UniqueKeys := by
  unfold Entries.insert
  cases hnew : Entries.has entries key with
  | false =>
    rw [Entries.upsert_of_not_has hnew]
    exact h.snoc hkey hvalue hnew
  | true =>
    obtain ⟨hdiffer, hkeys, hvalues⟩ := h.of_mapping
    refine .mapping ?_ (Entries.uniqueKeys_upsert hkeys hkey) fun e he => ?_
    · have hsame := Entries.keys_upsert key (fun _ => value) value entries
      rw [hnew, if_pos rfl, List.append_nil] at hsame
      have hapart : ((Entries.upsert key (fun _ => value) value entries).map (·.1)).Pairwise
          fun k k' => k.same k' = false := by
        rw [hsame]
        exact List.pairwise_map.2 hdiffer
      exact List.pairwise_map.1 hapart
    · obtain hold | ⟨hchanged, -⟩ := Entries.mem_insert he
      · exact hvalues e hold
      · exact hchanged ▸ hvalue

end Value.UniqueKeys

end Simulcast.Yaml
