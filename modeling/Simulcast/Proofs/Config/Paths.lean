import Simulcast.Config.Basic
import Simulcast.Proofs.Config.Entries

/-!
# Looking up and putting along paths

A lookup goes from a mapping to what it has under the next key. A value can be put at a path unless
something on the way is there and is no mapping, and what was put at a path is found there.
-/

namespace Simulcast.Config

open Yaml

variable {tree value changed v : Value} {entries : Entries} {name : String}
  {path above below rest : List String}

theorem findFrom_toOption (above : List String) (path : List String) (tree : Value) :
    (findFrom above path tree).toOption = find? tree path := by
  suffices h : ∀ (path above below : List String) (tree : Value),
      (findFrom above path tree).toOption = (findFrom below path tree).toOption from
    h path above [] tree
  intro path
  induction path with
  | nil => intro above below tree; cases tree <;> rfl
  | cons name rest ih =>
    intro above below tree
    cases tree with
    | mapping entries =>
      unfold findFrom
      cases Entries.get? entries (key name) with
      | none => rfl
      | some child => exact ih _ _ child
    | _ => rfl

theorem find_eq_ok : find tree path = .ok v ↔ find? tree path = some v := by
  unfold find?
  cases find tree path <;> simp [Except.toOption]

/-! ### Lookups -/

def child? (tree : Value) (name : String) : Option Value :=
  match tree with
  | .mapping entries => Entries.get? entries (key name)
  | _ => none

@[simp] theorem find?_nil (tree : Value) : find? tree [] = some tree := by cases tree <;> rfl

theorem find?_cons (tree : Value) (name : String) (rest : List String) :
    find? tree (name :: rest) = (child? tree name).bind (find? · rest) := by
  cases tree with
  | mapping entries =>
    change (findFrom [] (name :: rest) (.mapping entries)).toOption =
      (Entries.get? entries (key name)).bind (find? · rest)
    rw [findFrom]
    cases Entries.get? entries (key name) with
    | none => rfl
    | some child => exact findFrom_toOption _ rest child
  | _ => rfl

theorem find?_append (above below : List String) (tree : Value) :
    find? tree (above ++ below) = (find? tree above).bind (find? · below) := by
  induction above generalizing tree with
  | nil => rw [find?_nil]; rfl
  | cons name above ih =>
    rw [List.cons_append, find?_cons, find?_cons]
    cases child? tree name with
    | none => rfl
    | some child => exact ih child

theorem find?_congr {other : List String} (tree : Value)
    (h : path.map Text.lowercase = other.map Text.lowercase) :
    find? tree path = find? tree other := by
  induction path generalizing other tree with
  | nil =>
    obtain rfl : other = [] := by simpa using h.symm
    rfl
  | cons name path ih =>
    cases other with
    | nil => cases h
    | cons name' other =>
      obtain ⟨hname, hrest⟩ := List.cons.inj h
      have hkey : key name = key name' := congrArg Value.text hname
      have hchild : child? tree name = child? tree name' := by
        unfold child?
        rw [hkey]
      rw [find?_cons, find?_cons, hchild]
      cases child? tree name' with
      | none => rfl
      | some child => exact ih child hrest

/-! ### What is in the way -/

/-- Something on the way to a path is there and is no mapping. -/
def Blocked (tree : Value) (path : List String) : Prop :=
  ∃ above below v, path = above ++ below ∧ below ≠ [] ∧ find? tree above = some v ∧
    ∀ entries, v ≠ .mapping entries

theorem not_blocked_nil (tree : Value) : ¬ Blocked tree [] := by
  rintro ⟨above, below, v, h, hbelow, -⟩
  exact hbelow (List.append_eq_nil_iff.1 h.symm).2

theorem blocked_cons (h : ∀ entries, tree ≠ .mapping entries) : Blocked tree (name :: rest) :=
  ⟨[], name :: rest, tree, rfl, List.cons_ne_nil _ _, find?_nil tree, h⟩

theorem not_blocked_empty (path : List String) : ¬ Blocked (.mapping []) path := by
  rintro ⟨above, below, v, -, -, hfind, hv⟩
  cases above with
  | nil =>
    rw [find?_nil] at hfind
    exact hv [] (Option.some.inj hfind).symm
  | cons name above => cases hfind

/-- Below a mapping, what is missing is as good as an empty mapping. -/
theorem blocked_mapping_cons :
    Blocked (.mapping entries) (name :: rest) ↔
      Blocked ((Entries.get? entries (key name)).getD (.mapping [])) rest := by
  have hcons (above : List String) : find? (.mapping entries) (name :: above) =
      (Entries.get? entries (key name)).bind (find? · above) := find?_cons _ _ _
  constructor
  · rintro ⟨above, below, v, hpath, hbelow, hfind, hv⟩
    cases above with
    | nil =>
      rw [find?_nil] at hfind
      exact (hv entries (Option.some.inj hfind).symm).elim
    | cons name' above =>
      obtain ⟨rfl, rfl⟩ := List.cons.inj hpath
      rw [hcons] at hfind
      obtain ⟨child, hchild, hfind⟩ := Option.bind_eq_some_iff.1 hfind
      rw [hchild]
      exact ⟨above, below, v, rfl, hbelow, hfind, hv⟩
  · cases hchild : Entries.get? entries (key name) with
    | none => exact fun h => (not_blocked_empty rest h).elim
    | some child =>
      rintro ⟨above, below, v, rfl, hbelow, hfind, hv⟩
      refine ⟨name :: above, below, v, rfl, hbelow, ?_, hv⟩
      rw [hcons, hchild]
      exact hfind

theorem find?_of_blocked (h : Blocked tree path) : find? tree path = none := by
  obtain ⟨above, below, v, rfl, hbelow, hfind, hv⟩ := h
  obtain ⟨name, rest, rfl⟩ := List.exists_cons_of_ne_nil hbelow
  rw [find?_append, hfind, Option.bind_some, find?_cons]
  cases v with
  | mapping entries => exact (hv entries rfl).elim
  | _ => rfl

theorem not_blocked_of_found (h : (find? tree path).isSome = true) : ¬ Blocked tree path := by
  intro hblocked
  rw [find?_of_blocked hblocked] at h
  cases h

theorem find_of_blocked (h : Blocked tree path) : ∃ error, find tree path = .error error := by
  cases hfind : find tree path with
  | error error => exact ⟨error, rfl⟩
  | ok v =>
    have hsome := find_eq_ok.1 hfind
    rw [find?_of_blocked h] at hsome
    cases hsome

/-! ### Putting -/

@[simp] theorem put_nil (value tree : Value) : put value [] tree = .ok value := by
  cases tree <;> rfl

theorem put_cons (value : Value) (name : String) (rest : List String) (entries : Entries) :
    put value (name :: rest) (.mapping entries) =
      (put value rest ((Entries.get? entries (key name)).getD (.mapping []))).map
        fun changed => .mapping (Entries.insert entries (key name) changed) := by
  rw [put]
  cases put value rest ((Entries.get? entries (key name)).getD (.mapping [])) <;> rfl

theorem put_eq_error (h : ∀ entries, tree ≠ .mapping entries) :
    put value (name :: rest) tree = .error .blocked := by
  cases tree with
  | mapping entries => exact (h entries rfl).elim
  | _ => rfl

theorem put_cons_eq_ok (h : put value (name :: rest) tree = .ok changed) :
    ∃ entries inner, tree = .mapping entries ∧
      put value rest ((Entries.get? entries (key name)).getD (.mapping [])) = .ok inner ∧
      changed = .mapping (Entries.insert entries (key name) inner) := by
  by_cases htree : ∃ entries, tree = .mapping entries
  · obtain ⟨entries, rfl⟩ := htree
    rw [put_cons] at h
    cases hrest : put value rest ((Entries.get? entries (key name)).getD (.mapping [])) with
    | error error => rw [hrest] at h; cases h
    | ok inner =>
      rw [hrest] at h
      exact ⟨entries, inner, rfl, hrest, (Except.ok.inj h).symm⟩
  · rw [put_eq_error fun entries h => htree ⟨entries, h⟩] at h
    cases h

theorem put_ok_iff : (∃ changed, put value path tree = .ok changed) ↔ ¬ Blocked tree path := by
  induction path generalizing tree with
  | nil => exact ⟨fun _ => not_blocked_nil tree, fun _ => ⟨value, put_nil value tree⟩⟩
  | cons name rest ih =>
    by_cases htree : ∃ entries, tree = .mapping entries
    · obtain ⟨entries, rfl⟩ := htree
      rw [blocked_mapping_cons, ← ih, put_cons]
      cases put value rest ((Entries.get? entries (key name)).getD (.mapping [])) <;>
        simp [Except.map]
    · have hno (entries : Entries) : tree ≠ .mapping entries := fun h => htree ⟨entries, h⟩
      refine ⟨?_, fun h => (h (blocked_cons hno)).elim⟩
      rintro ⟨changed, hput⟩
      rw [put_eq_error hno] at hput
      cases hput

theorem put_of_blocked (h : Blocked tree path) :
    ∃ error, put value path tree = .error error := by
  cases hput : put value path tree with
  | error error => exact ⟨error, rfl⟩
  | ok changed => exact (put_ok_iff.1 ⟨changed, hput⟩ h).elim

theorem find?_put (h : put value path tree = .ok changed) : find? changed path = some value := by
  induction path generalizing tree changed with
  | nil =>
    rw [put_nil] at h
    exact Except.ok.inj h ▸ find?_nil value
  | cons name rest ih =>
    obtain ⟨entries, inner, rfl, hrest, rfl⟩ := put_cons_eq_ok h
    rw [find?_cons, child?, key, Entries.get?_insert]
    exact ih hrest

end Simulcast.Config
