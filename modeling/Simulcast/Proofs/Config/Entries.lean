import Simulcast.Yaml.Value

/-!
# Entries under text keys

A text is the same key as itself alone, so looking up, inserting and changing under a text concern
the one entry that has it.
-/

namespace Simulcast.Yaml

variable {entries : Entries} {name other : String} {k v key value new : Value}
  {change : Value → Value}

theorem Value.same_text : k.same (.text name) = true ↔ k = .text name := by
  cases k <;> simp [Value.same]

theorem Value.text_same : (Value.text name).same k = true ↔ k = .text name := by
  cases k <;> simp [Value.same]
  exact eq_comm

namespace Entries

theorem get?_cons (k v key : Value) (entries : Entries) :
    get? ((k, v) :: entries) key = if k.same key then some v else get? entries key := by
  unfold get?
  rw [List.find?_cons]
  cases k.same key <;> rfl

theorem exists_mem_of_get? (h : get? entries key = some v) :
    ∃ k, (k, v) ∈ entries ∧ k.same key = true := by
  unfold get? at h
  obtain ⟨⟨k, v⟩, hfind, rfl⟩ := Option.map_eq_some_iff.1 h
  exact ⟨k, List.mem_of_find?_eq_some hfind, by simpa using List.find?_some hfind⟩

theorem mem_of_get? (h : get? entries (.text name) = some v) : (.text name, v) ∈ entries := by
  obtain ⟨k, hmem, hsame⟩ := exists_mem_of_get? h
  exact Value.same_text.1 hsame ▸ hmem

theorem upsert_cons (key : Value) (change : Value → Value) (new k v : Value) (entries : Entries) :
    upsert key change new ((k, v) :: entries) =
      if k.same key then (k, change v) :: entries
      else (k, v) :: upsert key change new entries := rfl

theorem has_cons (k v key : Value) (entries : Entries) :
    has ((k, v) :: entries) key = (k.same key || has entries key) := rfl

theorem has_eq_false :
    has entries key = false ↔ ∀ e ∈ entries, e.1.same key = false := by
  simp [has]

theorem get?_eq_none : get? entries key = none ↔ has entries key = false := by
  simp [get?, has]

theorem upsert_of_not_has (h : has entries k = false) :
    upsert k change new entries = entries ++ [(k, new)] := by
  induction entries with
  | nil => rfl
  | cons entry entries ih =>
    obtain ⟨k', v⟩ := entry
    rw [has_cons, Bool.or_eq_false_iff] at h
    rw [upsert_cons, h.1, ih h.2]
    rfl

theorem upsert_of_get? (h : get? entries k = some v) (hsame : change v = v) :
    upsert k change new entries = entries := by
  induction entries with
  | nil => cases h
  | cons entry entries ih =>
    obtain ⟨k', v'⟩ := entry
    rw [get?_cons] at h
    rw [upsert_cons]
    cases hk : k'.same k with
    | true =>
      rw [hk] at h
      obtain rfl := Option.some.inj h
      rw [if_pos rfl, hsame]
    | false =>
      rw [hk] at h
      rw [ih h]
      rfl

theorem insert_cons (k v key value : Value) (entries : Entries) :
    insert ((k, v) :: entries) key value =
      if k.same key then (k, value) :: entries else (k, v) :: insert entries key value := rfl

@[simp] theorem get?_insert (entries : Entries) (name : String) (value : Value) :
    get? (insert entries (.text name) value) (.text name) = some value := by
  induction entries with
  | nil =>
    change get? [(.text name, value)] (.text name) = some value
    rw [get?_cons, if_pos (Value.same_text.2 rfl)]
  | cons entry entries ih =>
    obtain ⟨k, v⟩ := entry
    rw [insert_cons]
    by_cases h : k.same (.text name) = true
    · rw [if_pos h, get?_cons, if_pos h]
    · rw [if_neg h, get?_cons, if_neg h, ih]

theorem get?_insert_of_ne (h : name ≠ other) (entries : Entries) (value : Value) :
    get? (insert entries (.text name) value) (.text other) = get? entries (.text other) := by
  have hother : (Value.text name).same (.text other) = false := by simpa [Value.same] using h
  induction entries with
  | nil =>
    change get? [(.text name, value)] (.text other) = none
    rw [get?_cons, hother]
    rfl
  | cons entry entries ih =>
    obtain ⟨k, v⟩ := entry
    rw [insert_cons]
    by_cases hsame : k.same (.text name) = true
    · obtain rfl := Value.same_text.1 hsame
      rw [if_pos hsame, get?_cons, get?_cons, hother]
      rfl
    · rw [if_neg hsame, get?_cons, get?_cons, ih]

@[simp] theorem insert_insert (entries : Entries) (name : String) (v w : Value) :
    insert (insert entries (.text name) v) (.text name) w = insert entries (.text name) w := by
  induction entries with
  | nil =>
    change insert [(.text name, v)] (.text name) w = [(.text name, w)]
    rw [insert_cons, if_pos (Value.same_text.2 rfl)]
  | cons entry entries ih =>
    obtain ⟨k, v'⟩ := entry
    rw [insert_cons, insert_cons]
    by_cases hsame : k.same (.text name) = true
    · rw [if_pos hsame, if_pos hsame, insert_cons, if_pos hsame]
    · rw [if_neg hsame, if_neg hsame, insert_cons, if_neg hsame, ih]

theorem insert_get? (h : get? entries (.text name) = some v) :
    insert entries (.text name) v = entries := upsert_of_get? h rfl

/-- Inserting brings in nothing but the new value, which a text leads to only if it is the key. -/
theorem mem_insert (h : (k, v) ∈ insert entries key value) :
    (k, v) ∈ entries ∨ v = value ∧ ∀ name, k = .text name → key = .text name := by
  induction entries with
  | nil =>
    obtain ⟨rfl, rfl⟩ : k = key ∧ v = value := by simpa [insert, upsert] using h
    exact .inr ⟨rfl, fun _ h => h⟩
  | cons entry entries ih =>
    obtain ⟨k', v'⟩ := entry
    rw [insert_cons] at h
    by_cases hsame : k'.same key = true
    · rw [if_pos hsame] at h
      obtain heq | hmem := List.mem_cons.1 h
      · obtain ⟨rfl, rfl⟩ := Prod.mk.inj heq
        refine .inr ⟨rfl, ?_⟩
        rintro name rfl
        exact Value.text_same.1 hsame
      · exact .inl (List.mem_cons_of_mem _ hmem)
    · rw [if_neg hsame] at h
      obtain heq | hmem := List.mem_cons.1 h
      · exact .inl (heq ▸ List.mem_cons_self)
      · exact (ih hmem).imp_left (List.mem_cons_of_mem _)

end Entries

end Simulcast.Yaml
