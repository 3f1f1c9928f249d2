import Simulcast.Proofs.Yaml.Keys
import Simulcast.Yaml.Reader

/-!
# Keys of values that are read

A mapping with a key twice is no value, so every value that is read has each of its keys once.
-/

namespace Simulcast.Yaml

open Value

variable {s t text : String} {tag : Option String} {isPlain : Bool} {v w : Value}
  {before entries : Entries} {key value : Value} {node : Numbered} {followed followed' : Nat}

/-! ### Scalars -/

theorem plain?_uniqueKeys (h : plain? s = some v) : v.UniqueKeys := by
  unfold plain? at h
  split at h
  · exact Option.some.inj h ▸ .null
  · split at h
    · exact Option.some.inj h ▸ .bool _
    · split at h
      · exact Option.some.inj h ▸ .integer _
      · cases h
      · split at h
        · exact Option.some.inj h ▸ .float _
        · exact Option.some.inj h ▸ .text _

theorem untaggedScalar?_uniqueKeys (h : untaggedScalar? isPlain s = some v) : v.UniqueKeys := by
  unfold untaggedScalar? at h
  split at h
  · exact plain?_uniqueKeys h
  · exact Option.some.inj h ▸ .text _

theorem coreScalar?_uniqueKeys (h : coreScalar? t s = some v) : v.UniqueKeys := by
  unfold coreScalar? at h
  split at h
  · obtain ⟨b, -, rfl⟩ := Option.map_eq_some_iff.1 h
    exact .bool b
  · split at h
    · split at h
      · exact Option.some.inj h ▸ .integer _
      · cases h
    · split at h
      · obtain ⟨x, -, rfl⟩ := Option.map_eq_some_iff.1 h
        exact .float x
      · split at h
        · split at h
          · exact Option.some.inj h ▸ .null
          · cases h
        · exact Option.some.inj h ▸ .text _

theorem withTag?_uniqueKeys (hv : v.UniqueKeys) (h : withTag? tag v = some w) : w.UniqueKeys := by
  unfold withTag? at h
  split at h
  · exact Option.some.inj h ▸ hv
  · split at h
    · cases h
    · exact Option.some.inj h ▸ .tagged _ hv

theorem scalarValue?_uniqueKeys (h : scalarValue? tag text isPlain = some v) : v.UniqueKeys := by
  unfold scalarValue? at h
  split at h
  · exact untaggedScalar?_uniqueKeys h
  · split at h
    · obtain ⟨u, hu, htag⟩ := Option.bind_eq_some_iff.1 h
      exact withTag?_uniqueKeys (untaggedScalar?_uniqueKeys hu) htag
    · exact coreScalar?_uniqueKeys h

/-! ### Collections -/

/-- A reading that gives only values with each of their keys once. -/
def ReadsUnique (value? : Numbered → Nat → Option (Value × Nat)) : Prop :=
  ∀ node followed v followed', value? node followed = some (v, followed') → v.UniqueKeys

section

variable {value? : Numbered → Nat → Option (Value × Nat)} {items : List Value}

theorem valuesOf_uniqueKeys (hvalue : ReadsUnique value?) {nodes : List Numbered}
    (h : valuesOf value? nodes followed = some (items, followed')) :
    ∀ v ∈ items, v.UniqueKeys := by
  induction nodes generalizing followed items followed' with
  | nil =>
    obtain ⟨rfl, -⟩ := Prod.mk.inj (Option.some.inj h)
    exact List.forall_mem_nil _
  | cons node nodes ih =>
    rw [valuesOf] at h
    split at h
    · cases h
    next item _ hitem =>
      obtain ⟨⟨rest, _⟩, hrest, heq⟩ := Option.map_eq_some_iff.1 h
      obtain ⟨rfl, -⟩ := Prod.mk.inj heq
      exact List.forall_mem_cons.2 ⟨hvalue _ _ _ _ hitem, ih hrest⟩

theorem entriesOf_uniqueKeys (hvalue : ReadsUnique value?) {nodes : List (Numbered × Numbered)}
    (hbefore : (Value.mapping before).UniqueKeys)
    (h : entriesOf value? nodes before followed = some (entries, followed')) :
    (Value.mapping entries).UniqueKeys := by
  induction nodes generalizing before followed with
  | nil =>
    obtain ⟨rfl, -⟩ := Prod.mk.inj (Option.some.inj h)
    exact hbefore
  | cons node nodes ih =>
    rw [entriesOf] at h
    split at h
    · cases h
    next k _ hk =>
      split at h
      · cases h
      next hnew =>
        split at h
        · cases h
        next v _ hv =>
          exact ih (hbefore.snoc (hvalue _ _ _ _ hk) (hvalue _ _ _ _ hv) (by simpa using hnew)) h

end

theorem valueInside?_uniqueKeys {inside? : Option (Numbered → Nat → Option (Value × Nat))}
    (hinside : ∀ value?, inside? = some value? → ReadsUnique value?) :
    ReadsUnique (valueInside? inside?) := by
  intro node followed v followed' h
  unfold valueInside? at h
  split at h
  · cases h
  · obtain ⟨u, hu, heq⟩ := Option.map_eq_some_iff.1 h
    obtain ⟨rfl, -⟩ := Prod.mk.inj heq
    exact scalarValue?_uniqueKeys hu
  · cases h
  · cases h
  next value? =>
    split at h
    · cases h
    next items _ hitems =>
      obtain ⟨u, hu, heq⟩ := Option.map_eq_some_iff.1 h
      obtain ⟨rfl, -⟩ := Prod.mk.inj heq
      exact withTag?_uniqueKeys (.sequence (valuesOf_uniqueKeys (hinside _ rfl) hitems)) hu
  next value? =>
    split at h
    · cases h
    next entries _ hentries =>
      obtain ⟨u, hu, heq⟩ := Option.map_eq_some_iff.1 h
      obtain ⟨rfl, -⟩ := Prod.mk.inj heq
      exact withTag?_uniqueKeys (entriesOf_uniqueKeys (hinside _ rfl) .empty hentries) hu

theorem valueFollowing?_uniqueKeys (s : Surrounding)
    {inside? : Option (Numbered → Nat → Option (Value × Nat))}
    (hinside : ∀ value?, inside? = some value? → ReadsUnique value?) :
    ReadsUnique (valueFollowing? s inside?) := by
  intro node followed v followed' h
  unfold valueFollowing? at h
  split at h
  · split at h
    · cases h
    · split at h
      · cases h
      · exact valueInside?_uniqueKeys hinside _ _ _ _ h
  · exact valueInside?_uniqueKeys hinside _ _ _ _ h

theorem value?_uniqueKeys (s : Surrounding) (depth : Nat) : ReadsUnique (value? s depth) := by
  induction depth with
  | zero => exact valueFollowing?_uniqueKeys s fun _ h => nomatch h
  | succ depth ih =>
    exact valueFollowing?_uniqueKeys s fun _ h => Option.some.inj h ▸ ih

/-- A text that is read gives a value whose mappings have each of their keys once. -/
theorem read_uniqueKeys (h : read s = some v) : v.UniqueKeys := by
  obtain ⟨document, -, hvalue⟩ := Option.bind_eq_some_iff.1 h
  unfold valueOf? at hvalue
  split at hvalue
  · cases hvalue
  · obtain ⟨⟨u, followed⟩, hu, rfl⟩ := Option.map_eq_some_iff.1 hvalue
    exact value?_uniqueKeys _ _ _ _ _ _ hu

end Simulcast.Yaml
