import Mathlib.Tactic.SplitIfs
import Simulcast.Proofs.Config.Overrides
import Simulcast.Proofs.Config.Store

/-!
# Overrides in any order

Two changes whose paths lead apart can be made in either order. Both may put new keys into the same
mapping, and then these stand in the order in which they came; a change that is blocked before the
other is blocked after it as well. So overrides that are pairwise apart lead to the same tree up to
the order of keys, in whatever order the variables come.
-/

namespace Simulcast.Config

open Yaml

/-- Trees that are the same but for the order in which mappings have their names. -/
inductive Reordered : Value → Value → Prop where
  | refl (v : Value) : Reordered v v
  | cons {k v w : Value} {entries entries' : Entries} (hvalue : Reordered v w)
      (hrest : Reordered (.mapping entries) (.mapping entries')) :
      Reordered (.mapping ((k, v) :: entries)) (.mapping ((k, w) :: entries'))
  | swap {name other : String} (v w : Value) (entries : Entries) (h : name ≠ other) :
      Reordered (.mapping ((.text name, v) :: (.text other, w) :: entries))
        (.mapping ((.text other, w) :: (.text name, v) :: entries))
  | trans {u v w : Value} : Reordered u v → Reordered v w → Reordered u w

variable {tree tree' value v w : Value} {entries : Entries} {name other : String}
  {path rest : List String} {change : Change}

/-! ### Changes below a mapping -/

/-- A change below a mapping is one of the value under its first key, even when it is blocked. -/
theorem apply_cons (name : String) (rest : List String) (value : Value) (entries : Entries) :
    Change.apply (.mapping entries) ⟨name :: rest, value⟩ =
      .mapping (Entries.insert entries (key name)
        (Change.apply ((Entries.get? entries (key name)).getD (.mapping [])) ⟨rest, value⟩)) := by
  unfold Change.apply
  dsimp only
  rw [put_cons]
  cases hput : put value rest ((Entries.get? entries (key name)).getD (.mapping [])) with
  | ok changed => rfl
  | error error =>
    cases hchild : Entries.get? entries (key name) with
    | some child =>
      rw [key] at hchild ⊢
      exact congrArg Value.mapping (Entries.insert_get? hchild).symm
    | none =>
      rw [hchild, Option.getD_none] at hput
      obtain ⟨changed, hok⟩ := (@put_ok_iff _ value _).2 (not_blocked_empty rest)
      cases hput.symm.trans hok

theorem apply_of_not_mapping (h : ∀ entries, tree ≠ .mapping entries) (name : String)
    (rest : List String) (value : Value) : Change.apply tree ⟨name :: rest, value⟩ = tree :=
  Change.apply_of_blocked (blocked_cons h)

theorem apply_nil (tree value : Value) : Change.apply tree ⟨[], value⟩ = value := by
  cases tree <;> rfl

namespace Reordered

theorem insert (h : Reordered v w) (entries : Entries) (k : Value) :
    Reordered (.mapping (Entries.insert entries k v)) (.mapping (Entries.insert entries k w)) := by
  induction entries with
  | nil => exact .cons h (.refl _)
  | cons entry entries ih =>
    obtain ⟨k', v'⟩ := entry
    rw [Entries.insert_cons, Entries.insert_cons]
    split_ifs
    · exact .cons h (.refl _)
    · exact .cons (.refl v') ih

theorem apply (h : Reordered tree tree') (path : List String) (value : Value) :
    Reordered (Change.apply tree ⟨path, value⟩) (Change.apply tree' ⟨path, value⟩) := by
  cases path with
  | nil =>
    rw [apply_nil, apply_nil]
    exact .refl value
  | cons name rest =>
    induction h generalizing name rest with
    | refl v => exact .refl _
    | trans _ _ ihfirst ihsecond => exact (ihfirst name rest).trans (ihsecond name rest)
    | @cons k v w entries entries' hvalue hrest ihvalue ihrest =>
      have hbelow := ihrest name rest
      rw [apply_cons, apply_cons] at hbelow ⊢
      rw [Entries.get?_cons, Entries.get?_cons, Entries.insert_cons, Entries.insert_cons]
      by_cases hk : k.same (key name) = true
      · simp only [if_pos hk, Option.getD_some]
        refine .cons ?_ hrest
        cases rest with
        | nil =>
          rw [apply_nil, apply_nil]
          exact .refl value
        | cons name' rest => exact ihvalue name' rest
      · simp only [if_neg hk]
        exact .cons hvalue hbelow
    | @swap s t v w entries hne =>
      rw [apply_cons, apply_cons]
      simp only [Entries.get?_cons, Entries.insert_cons, key, Value.same, beq_iff_eq]
      by_cases hs : s = Text.lowercase name
      · subst hs
        simp only [if_true, if_neg hne.symm]
        exact .swap _ _ _ hne
      · simp only [if_neg hs]
        split_ifs
        · exact .swap _ _ _ hne
        · exact .swap _ _ _ hne

end Reordered

/-! ### Two changes -/

theorem insert_comm (hne : name ≠ other) (v w : Value) (entries : Entries) :
    Reordered
      (.mapping (Entries.insert (Entries.insert entries (.text name) v) (.text other) w))
      (.mapping (Entries.insert (Entries.insert entries (.text other) w) (.text name) v)) := by
  have hname : ¬ (Value.text name).same (.text other) = true := by simpa [Value.same] using hne
  have hother : ¬ (Value.text other).same (.text name) = true := by
    simpa [Value.same] using hne.symm
  induction entries with
  | nil =>
    change Reordered (.mapping (Entries.insert [(.text name, v)] (.text other) w))
      (.mapping (Entries.insert [(.text other, w)] (.text name) v))
    rw [Entries.insert_cons, Entries.insert_cons, if_neg hname, if_neg hother]
    exact .swap v w [] hne
  | cons entry entries ih =>
    obtain ⟨k, v'⟩ := entry
    simp only [Entries.insert_cons]
    by_cases hk : k.same (.text name) = true
    · obtain rfl := Value.same_text.1 hk
      simp only [if_pos hk, if_neg hname, Entries.insert_cons]
      exact .refl _
    · simp only [if_neg hk, Entries.insert_cons]
      split_ifs
      · rw [Entries.insert_cons, if_neg hk]
        exact .refl _
      · rw [Entries.insert_cons, if_neg hk]
        exact .cons (.refl v') ih

/-- Changes whose paths lead apart can be made in either order. -/
theorem apply_comm {other : List String} (h : Apart path other) (v w : Value) (tree : Value) :
    Reordered (Change.apply (Change.apply tree ⟨path, v⟩) ⟨other, w⟩)
      (Change.apply (Change.apply tree ⟨other, w⟩) ⟨path, v⟩) := by
  induction path generalizing other tree with
  | nil => exact (not_apart_nil other h).elim
  | cons name rest ih =>
    cases other with
    | nil => exact (not_apart_nil _ h.symm).elim
    | cons name' rest' =>
      by_cases htree : ∃ entries, tree = .mapping entries
      · obtain ⟨entries, rfl⟩ := htree
        simp only [apply_cons, key]
        by_cases hsame : Text.lowercase name = Text.lowercase name'
        · have hbelow : Apart rest rest' := (apart_cons.1 h).resolve_left (not_not_intro hsame)
          simp only [← hsame, Entries.get?_insert, Option.getD_some, Entries.insert_insert]
          exact (ih hbelow _).insert entries _
        · rw [Entries.get?_insert_of_ne hsame, Entries.get?_insert_of_ne (Ne.symm hsame)]
          exact insert_comm hsame _ _ entries
      · have hno (entries : Entries) : tree ≠ .mapping entries := fun h => htree ⟨entries, h⟩
        simp only [apply_of_not_mapping hno]
        exact .refl tree

/-! ### Any number of changes -/

variable {changes changes' : List Change}

theorem Reordered.foldl (h : Reordered tree tree') (changes : List Change) :
    Reordered (changes.foldl Change.apply tree) (changes.foldl Change.apply tree') := by
  induction changes generalizing tree tree' with
  | nil => exact h
  | cons change rest ih => exact ih (h.apply change.path change.value)

theorem foldl_perm (hperm : changes.Perm changes')
    (hapart : changes.Pairwise fun a b => Apart a.path b.path) (tree : Value) :
    Reordered (changes.foldl Change.apply tree) (changes'.foldl Change.apply tree) := by
  induction hperm generalizing tree with
  | nil => exact .refl tree
  | cons change _ ih => exact ih (List.Pairwise.of_cons hapart) (change.apply tree)
  | swap first second rest =>
    have hfirst : Apart second.path first.path :=
      List.rel_of_pairwise_cons hapart List.mem_cons_self
    exact (apply_comm hfirst second.value first.value tree).foldl rest
  | trans hperm _ ihfirst ihsecond =>
    have hbetween := (hperm.pairwise_iff fun h => Apart.symm h).1 hapart
    exact (ihfirst hapart tree).trans (ihsecond hbetween tree)

/-- Whatever order the variables come in, overrides whose paths are pairwise apart lead to the same
tree up to the order of its keys, and variables that are no overrides have no part in it. -/
theorem overrides_in_any_order {assignments assignments' : List (String × String)}
    (hperm : assignments.Perm assignments')
    (hapart : (assignments.filterMap fun a => overridePath? a.1).Pairwise Apart) (tree : Value) :
    Reordered (overrideAll tree assignments) (overrideAll tree assignments') ∧
      overrideAll tree assignments =
        overrideAll tree (assignments.filter fun a => (overridePath? a.1).isSome) := by
  have hpaths : (overrides assignments).map (·.path) =
      assignments.filterMap fun a => overridePath? a.1 := by
    simp [overrides, List.map_filterMap, Function.comp_def]
  rw [← hpaths, List.pairwise_map] at hapart
  rw [overrideAll_eq, overrideAll_eq, overrideAll_eq, ← overrides_eq_filter]
  exact ⟨foldl_perm (hperm.filterMap _) hapart tree, rfl⟩

def newSection : List (String × String) :=
  [("POLYEMESIS_CONFIG__RECORDING__FORMAT", "mkv"), ("HOME", "/root"),
    ("POLYEMESIS_CONFIG__RECORDING__SPLIT_SECS", "600")]

theorem overrides_in_any_order_newSection :
    newSection.Perm newSection.reverse ∧
      (newSection.filterMap fun a => overridePath? a.1).Pairwise Apart ∧
      Reordered (overrideAll (lowerKeys defaults) newSection)
        (overrideAll (lowerKeys defaults) newSection.reverse) := by
  have hperm : newSection.Perm newSection.reverse := (List.reverse_perm newSection).symm
  have hapart : (newSection.filterMap fun a => overridePath? a.1).Pairwise Apart := by
    have hpaths : (newSection.filterMap fun a => overridePath? a.1) =
        [["RECORDING", "FORMAT"], ["RECORDING", "SPLIT_SECS"]] := rfl
    rw [hpaths, List.pairwise_pair]
    exact ⟨by decide +kernel, by decide +kernel⟩
  exact ⟨hperm, hapart, (overrides_in_any_order hperm hapart (lowerKeys defaults)).1⟩

end Simulcast.Config
