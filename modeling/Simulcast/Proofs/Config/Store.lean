import Simulcast.Proofs.Config.Loading

/-!
# Values that are set and found again

Setting a value makes the mappings that are missing on the way before it comes to the place. If
something is in the way, it is met before anything was made, so a set that fails leaves no trace.
One that goes through is found at its path, and at no path that leads apart from it.
-/

namespace Simulcast

open Yaml

namespace Yaml.Entries

variable {entries : Entries} {name : String} {v : Value}

/-- The entries with an empty mapping under a key that has no value yet. -/
def withPlace (entries : Entries) (key : Value) : Entries :=
  upsert key (fun old => old) (.mapping []) entries

theorem withPlace_of_some (h : get? entries (.text name) = some v) :
    withPlace entries (.text name) = entries := upsert_of_get? h rfl

theorem withPlace_of_none (h : get? entries (.text name) = none) :
    withPlace entries (.text name) = insert entries (.text name) (.mapping []) := by
  have hnew := get?_eq_none.1 h
  rw [withPlace, insert, upsert_of_not_has hnew, upsert_of_not_has hnew]

end Yaml.Entries

namespace Config

variable {tree value changed v w : Value} {entries : Entries} {name : String}
  {path other rest : List String}

/-! ### Setting in place -/

/-- Sets a value in the tree as it stands. What was made on the way stays there whatever comes of
the rest, and so the tree is returned along with a failure too. -/
def putInPlace (value : Value) : (path : List String) → Value → Except ConfigError Unit × Value
  | [], _ => (.ok (), value)
  | [name], .mapping entries => (.ok (), .mapping (Entries.insert entries (key name) value))
  | name :: next :: rest, .mapping entries =>
    let entries := Entries.withPlace entries (key name)
    match putInPlace value (next :: rest) ((Entries.get? entries (key name)).getD .null) with
    | (result, child) => (result, .mapping (Entries.insert entries (key name) child))
  | _ :: _, tree => (.error .blocked, tree)

/-- Nothing was made on the way to something that is in the way. -/
theorem putInPlace_eq (value : Value) (path : List String) (tree : Value) :
    putInPlace value path tree =
      match put value path tree with
      | .ok changed => (.ok (), changed)
      | .error error => (.error error, tree) := by
  induction path generalizing tree with
  | nil =>
    rw [put_nil]
    cases tree <;> rfl
  | cons name rest ih =>
    cases tree with
    | mapping entries =>
      cases rest with
      | nil =>
        rw [put_cons, put_nil]
        rfl
      | cons next rest =>
        rw [put_cons, putInPlace, ih, key]
        cases hchild : Entries.get? entries (.text (Text.lowercase name)) with
        | some child =>
          rw [Entries.withPlace_of_some hchild, hchild, Option.getD_some, Option.getD_some]
          cases put value (next :: rest) child with
          | ok changed => rfl
          | error error =>
            dsimp only
            rw [Entries.insert_get? hchild]
            rfl
        | none =>
          rw [Entries.withPlace_of_none hchild, Entries.get?_insert, Option.getD_some,
            Option.getD_none]
          obtain ⟨changed, hput⟩ := (@put_ok_iff _ value _).2 (not_blocked_empty (next :: rest))
          rw [hput]
          dsimp only
          rw [Entries.insert_insert]
          rfl
    | _ => cases rest <;> rfl

/-! ### The same path again, and paths that lead apart -/

theorem put_put (h : put v path tree = .ok changed) (w : Value) :
    put w path changed = put w path tree := by
  induction path generalizing tree changed with
  | nil => rw [put_nil, put_nil]
  | cons name rest ih =>
    obtain ⟨entries, inner, rfl, hrest, rfl⟩ := put_cons_eq_ok h
    rw [put_cons, put_cons, ← ih hrest, key, Entries.get?_insert, Option.getD_some]
    simp only [Entries.insert_insert]

/-- Neither of two paths leads along the other, whatever the letter case. -/
def Apart (path other : List String) : Prop :=
  ¬ path.map Text.lowercase <+: other.map Text.lowercase ∧
    ¬ other.map Text.lowercase <+: path.map Text.lowercase

theorem Apart.symm (h : Apart path other) : Apart other path := ⟨h.2, h.1⟩

theorem not_apart_nil (other : List String) : ¬ Apart [] other := fun h => h.1 List.nil_prefix

/-- Paths that lead apart part at their first keys or behind them. -/
theorem apart_cons {name' : String} {rest' : List String} :
    Apart (name :: rest) (name' :: rest') ↔
      Text.lowercase name ≠ Text.lowercase name' ∨ Apart rest rest' := by
  unfold Apart
  simp only [List.map_cons, List.cons_prefix_cons]
  by_cases h : Text.lowercase name = Text.lowercase name' <;> simp [h, Ne.symm]

theorem find?_put_of_apart (h : put value path tree = .ok changed) (hapart : Apart path other) :
    find? changed other = find? tree other := by
  induction path generalizing tree changed other with
  | nil => exact (not_apart_nil other hapart).elim
  | cons name rest ih =>
    cases other with
    | nil => exact (not_apart_nil _ hapart.symm).elim
    | cons name' rest' =>
      obtain ⟨entries, inner, rfl, hrest, rfl⟩ := put_cons_eq_ok h
      rw [find?_cons, find?_cons, child?, child?, key, key]
      by_cases hsame : Text.lowercase name = Text.lowercase name'
      · have hbelow : Apart rest rest' := (apart_cons.1 hapart).resolve_left (not_not_intro hsame)
        rw [← hsame, Entries.get?_insert, Option.bind_some, ih hrest hbelow, key]
        cases Entries.get? entries (.text (Text.lowercase name)) with
        | some child => rfl
        | none =>
          cases rest' with
          | nil => exact (not_apart_nil _ hbelow.symm).elim
          | cons => rfl
      · rw [Entries.get?_insert_of_ne hsame]

variable {c c' : Config}

theorem set_eq_ok (h : c.set path value = .ok c') :
    put value path c.root = .ok c'.root ∧ c' = { c with root := c'.root } := by
  unfold set at h
  cases hput : put value path c.root with
  | ok changed =>
    rw [hput] at h
    obtain rfl := Except.ok.inj h
    exact ⟨rfl, rfl⟩
  | error error => rw [hput] at h; cases h

theorem put_of_set_eq_error {error : ConfigError} (h : c.set path value = .error error) :
    put value path c.root = .error error := by
  unfold set at h
  cases hput : put value path c.root with
  | ok changed => rw [hput] at h; cases h
  | error error' =>
    rw [hput] at h
    obtain rfl := Except.error.inj h
    rfl

theorem set_error_iff : (∃ error, c.set path value = .error error) ↔ Blocked c.root path := by
  have hok := @set_ok_iff c path value
  cases hset : c.set path value with
  | ok c' => simp [hok.1 ⟨c', hset⟩]
  | error error =>
    have hblocked : ¬ ¬ Blocked c.root path := fun hfree => by
      obtain ⟨c', hc'⟩ := hok.2 hfree
      cases hset.symm.trans hc'
    simp [Classical.not_not.1 hblocked]

/-- Setting a value fails exactly when something that is no mapping is in the way, and then nothing
was made. Otherwise the value is found at the path in any letter case, a lookup apart from the path
finds what it found before, and of two values set at the path only the second counts. -/
theorem set_laws (c : Config) (path : List String) (value : Value) :
    ((∃ error, c.set path value = .error error) ↔ Blocked c.root path) ∧
      (∀ error, c.set path value = .error error →
        putInPlace value path c.root = (.error error, c.root)) ∧
      ∀ c', c.set path value = .ok c' →
        putInPlace value path c.root = (.ok (), c'.root) ∧
          (∀ p, p.map Text.lowercase = path.map Text.lowercase → find c'.root p = .ok value) ∧
          (∀ r, Apart path r → ∀ v, find c'.root r = .ok v ↔ find c.root r = .ok v) ∧
          ∀ w, c'.set path w = c.set path w := by
  refine ⟨set_error_iff, fun error h => ?_, fun c' h => ?_⟩
  · rw [putInPlace_eq, put_of_set_eq_error h]
  · obtain ⟨hput, hsame⟩ := set_eq_ok h
    refine ⟨?_, fun p hp => ?_, fun r hr v => ?_, fun w => ?_⟩
    · rw [putInPlace_eq, hput]
    · rw [find_eq_ok, find?_congr _ hp]
      exact find?_put hput
    · rw [find_eq_ok, find_eq_ok, find?_put_of_apart hput hr]
    · rw [set, set, put_put hput, hsame]

end Config

end Simulcast
