import Mathlib.Data.Fintype.EquivFin
import Simulcast.Proofs.Config.Entries

/-!
# Values that are the same

Mappings are the same when each entry of the one is an entry of the other and they have as many of
them. As long as no mapping has a key twice, being the same is an equivalence: the entries of one
mapping then stand for different entries of the other, and so for all of them.
-/

namespace Simulcast

namespace Binary64

variable {x y z : Binary64}

theorem same_iff : x.same y = true ↔
    (x.isNaN = true ∧ y.isNaN = true) ∨ x = y ∨ (x.isZero = true ∧ y.isZero = true) := by
  simp [same, or_assoc]

theorem isZero_not_isNaN (h : x.isZero = true) : x.isNaN = false := by
  have hzero : x.magnitude = 0 := by simpa [isZero] using h
  simp [isNaN, hzero]

theorem same_refl (x : Binary64) : x.same x = true := same_iff.2 (.inr (.inl rfl))

theorem same_symm (h : x.same y = true) : y.same x = true := by
  rw [same_iff] at h ⊢
  exact h.imp And.symm (.imp Eq.symm And.symm)

theorem same_trans (hxy : x.same y = true) (hyz : y.same z = true) : x.same z = true := by
  rw [same_iff] at hxy hyz ⊢
  obtain ⟨hx, hy⟩ | rfl | ⟨hx, hy⟩ := hxy
  · obtain ⟨-, hz⟩ | rfl | ⟨hzero, -⟩ := hyz
    · exact .inl ⟨hx, hz⟩
    · exact .inl ⟨hx, hy⟩
    · cases hy.symm.trans (isZero_not_isNaN hzero)
  · exact hyz
  · obtain ⟨hnan, -⟩ | rfl | ⟨-, hz⟩ := hyz
    · cases hnan.symm.trans (isZero_not_isNaN hy)
    · exact .inr (.inr ⟨hx, hy⟩)
    · exact .inr (.inr ⟨hx, hz⟩)

end Binary64

namespace Yaml.Value

variable {a b c v : Value} {items items' : List Value} {entries entries' : Entries} {tag : String}

/-! ### What a value is the same as -/

attribute [local simp] same sameItems within

theorem null_same : Value.null.same v = true ↔ v = .null := by cases v <;> simp

theorem bool_same {b : Bool} : (Value.bool b).same v = true ↔ v = .bool b := by
  cases v <;> simp
  exact eq_comm

theorem integer_same {n : Int} : (Value.integer n).same v = true ↔ v = .integer n := by
  cases v <;> simp
  exact eq_comm

theorem float_same {x : Binary64} :
    (Value.float x).same v = true ↔ ∃ y, v = .float y ∧ x.same y = true := by
  cases v <;> simp

theorem tagged_same : (Value.tagged tag a).same v = true ↔
    ∃ b, v = .tagged tag b ∧ a.same b = true := by
  cases v <;> simp
  exact fun _ => eq_comm

theorem sameItems_iff : sameItems items items' = true ↔
    items.length = items'.length ∧
      ∀ i (h : i < items.length) (h' : i < items'.length), items[i].same items'[i] = true := by
  induction items generalizing items' with
  | nil => cases items' <;> simp
  | cons item items ih =>
    cases items' with
    | nil => simp
    | cons item' items' =>
      simp only [sameItems, Bool.and_eq_true, ih, List.length_cons, Nat.add_right_cancel_iff]
      constructor
      · rintro ⟨hitem, hlen, hitems⟩
        refine ⟨hlen, fun i h h' => ?_⟩
        cases i with
        | zero => exact hitem
        | succ i => exact hitems i (Nat.lt_of_succ_lt_succ h) (Nat.lt_of_succ_lt_succ h')
      · rintro ⟨hlen, hitems⟩
        exact ⟨hitems 0 (Nat.succ_pos _) (Nat.succ_pos _), hlen,
          fun i h h' => hitems (i + 1) (Nat.succ_lt_succ h) (Nat.succ_lt_succ h')⟩

theorem within_iff : within entries entries' = true ↔
    ∀ e ∈ entries, ∃ e' ∈ entries', e.1.same e'.1 = true ∧ e.2.same e'.2 = true := by
  induction entries with
  | nil => simp
  | cons entry entries ih =>
    obtain ⟨k, v⟩ := entry
    simp [ih]

theorem sequence_same : (Value.sequence items).same v = true ↔
    ∃ items', v = .sequence items' ∧ items.length = items'.length ∧
      ∀ i (h : i < items.length) (h' : i < items'.length), items[i].same items'[i] = true := by
  cases v <;> simp [sameItems_iff]

theorem mapping_same : (Value.mapping entries).same v = true ↔
    ∃ entries', v = .mapping entries' ∧ entries.length = entries'.length ∧
      ∀ e ∈ entries, ∃ e' ∈ entries', e.1.same e'.1 = true ∧ e.2.same e'.2 = true := by
  cases v <;> simp [within_iff]

/-- When no two members of a list share a partner in another list that is as long, every member of
the other is a partner. -/
theorem exists_partner {α β : Type} {R : α → β → Prop} {as : List α} {bs : List β}
    (hlen : as.length = bs.length) (hpartners : ∀ a ∈ as, ∃ b ∈ bs, R a b)
    (hapart : as.Pairwise fun a a' => ∀ b, R a b → ¬ R a' b) : ∀ b ∈ bs, ∃ a ∈ as, R a b := by
  have hexists (i : Fin as.length) : ∃ j : Fin bs.length, R as[i] bs[j] := by
    obtain ⟨b, hb, hr⟩ := hpartners as[i] (List.getElem_mem i.2)
    obtain ⟨j, hj, rfl⟩ := List.getElem_of_mem hb
    exact ⟨⟨j, hj⟩, hr⟩
  choose partner hpartner using hexists
  have hne {i j : Fin as.length} (hlt : i < j) : partner i ≠ partner j := fun hij => by
    have hi := hpartner i
    rw [hij] at hi
    exact List.pairwise_iff_getElem.1 hapart i j i.2 j.2 hlt _ hi (hpartner j)
  have hinjective : Function.Injective partner := fun i j hij => by
    rcases lt_trichotomy i j with hlt | heq | hlt
    · exact (hne hlt hij).elim
    · exact heq
    · exact (hne hlt hij.symm).elim
  have hsurjective : Function.Surjective partner :=
    (Finite.injective_iff_surjective_of_equiv (finCongr hlen)).1 hinjective
  intro b hb
  obtain ⟨j, hj, rfl⟩ := List.getElem_of_mem hb
  obtain ⟨i, hi⟩ := hsurjective ⟨j, hj⟩
  have hr := hpartner i
  rw [hi] at hr
  exact ⟨as[i], List.getElem_mem i.2, hr⟩

/-! ### Values whose mappings have every key once -/

/-- No mapping in the value has a key that is the same as another. -/
inductive UniqueKeys : Value → Prop where
  | null : UniqueKeys .null
  | bool (b : Bool) : UniqueKeys (.bool b)
  | integer (n : Int) : UniqueKeys (.integer n)
  | float (x : Binary64) : UniqueKeys (.float x)
  | text (s : String) : UniqueKeys (.text s)
  | sequence {items : List Value} (hitems : ∀ v ∈ items, UniqueKeys v) :
      UniqueKeys (.sequence items)
  | mapping {entries : Entries} (hdiffer : entries.Pairwise fun e e' => e.1.same e'.1 = false)
      (hkeys : ∀ e ∈ entries, UniqueKeys e.1) (hvalues : ∀ e ∈ entries, UniqueKeys e.2) :
      UniqueKeys (.mapping entries)
  | tagged (tag : String) {v : Value} (hvalue : UniqueKeys v) : UniqueKeys (.tagged tag v)

namespace UniqueKeys

theorem of_mapping (h : UniqueKeys (.mapping entries)) :
    (entries.Pairwise fun e e' => e.1.same e'.1 = false) ∧
      (∀ e ∈ entries, UniqueKeys e.1) ∧ ∀ e ∈ entries, UniqueKeys e.2 := by
  cases h with
  | mapping hdiffer hkeys hvalues => exact ⟨hdiffer, hkeys, hvalues⟩

theorem empty : UniqueKeys (.mapping []) :=
  .mapping .nil (List.forall_mem_nil _) (List.forall_mem_nil _)

theorem same_refl (h : UniqueKeys v) : v.same v = true := by
  induction h with
  | null => exact null_same.2 rfl
  | bool b => exact bool_same.2 rfl
  | integer n => exact integer_same.2 rfl
  | float x => exact x.same_refl
  | text s => exact Value.same_text.2 rfl
  | sequence _ ih => exact sequence_same.2 ⟨_, rfl, rfl, fun i h _ => ih _ (List.getElem_mem h)⟩
  | mapping _ _ _ ihkeys ihvalues =>
    exact mapping_same.2 ⟨_, rfl, rfl, fun e he => ⟨e, he, ihkeys e he, ihvalues e he⟩⟩
  | tagged tag _ ih => exact tagged_same.2 ⟨_, rfl, ih⟩

theorem same_trans (ha : UniqueKeys a) (hab : a.same b = true) (hbc : b.same c = true) :
    a.same c = true := by
  induction ha generalizing b c with
  | null =>
    obtain rfl := null_same.1 hab
    exact hbc
  | bool x =>
    obtain rfl := bool_same.1 hab
    exact hbc
  | integer n =>
    obtain rfl := integer_same.1 hab
    exact hbc
  | text s =>
    obtain rfl := Value.text_same.1 hab
    exact hbc
  | float x =>
    obtain ⟨y, rfl, hxy⟩ := float_same.1 hab
    obtain ⟨z, rfl, hyz⟩ := float_same.1 hbc
    exact Binary64.same_trans hxy hyz
  | tagged tag _ ih =>
    obtain ⟨b, rfl, hvalue⟩ := tagged_same.1 hab
    obtain ⟨c, rfl, hvalue'⟩ := tagged_same.1 hbc
    exact tagged_same.2 ⟨c, rfl, ih hvalue hvalue'⟩
  | sequence _ ih =>
    obtain ⟨bs, rfl, hlen, hab⟩ := sequence_same.1 hab
    obtain ⟨cs, rfl, hlen', hbc⟩ := sequence_same.1 hbc
    refine sequence_same.2 ⟨cs, rfl, hlen.trans hlen', fun i h h' => ?_⟩
    have hb : i < bs.length := hlen ▸ h
    exact ih _ (List.getElem_mem h) (hab i h hb) (hbc i hb h')
  | mapping _ _ _ ihkeys ihvalues =>
    obtain ⟨bs, rfl, hlen, hab⟩ := mapping_same.1 hab
    obtain ⟨cs, rfl, hlen', hbc⟩ := mapping_same.1 hbc
    refine mapping_same.2 ⟨cs, rfl, hlen.trans hlen', fun e he => ?_⟩
    obtain ⟨e', he', hkey, hvalue⟩ := hab e he
    obtain ⟨e'', he'', hkey', hvalue'⟩ := hbc e' he'
    exact ⟨e'', he'', ihkeys e he hkey hkey', ihvalues e he hvalue hvalue'⟩

/-- Of two mappings that are the same, the entries of the one stand for those of the other. -/
theorem same_symm (ha : UniqueKeys a) (hab : a.same b = true) : b.same a = true := by
  induction ha generalizing b with
  | null =>
    obtain rfl := null_same.1 hab
    exact hab
  | bool x =>
    obtain rfl := bool_same.1 hab
    exact hab
  | integer n =>
    obtain rfl := integer_same.1 hab
    exact hab
  | text s =>
    obtain rfl := Value.text_same.1 hab
    exact hab
  | float x =>
    obtain ⟨y, rfl, hxy⟩ := float_same.1 hab
    exact float_same.2 ⟨x, rfl, Binary64.same_symm hxy⟩
  | tagged tag _ ih =>
    obtain ⟨b, rfl, hvalue⟩ := tagged_same.1 hab
    exact tagged_same.2 ⟨_, rfl, ih hvalue⟩
  | sequence _ ih =>
    obtain ⟨bs, rfl, hlen, hab⟩ := sequence_same.1 hab
    exact sequence_same.2 ⟨_, rfl, hlen.symm, fun i h h' =>
      ih _ (List.getElem_mem h') (hab i h' h)⟩
  | @mapping entries hdiffer hkeys hvalues ihkeys ihvalues =>
    obtain ⟨bs, rfl, hlen, hab⟩ := mapping_same.1 hab
    have hapart : entries.Pairwise fun e e' =>
        ∀ x : Value × Value, e.1.same x.1 = true ∧ e.2.same x.2 = true →
          ¬ (e'.1.same x.1 = true ∧ e'.2.same x.2 = true) := by
      refine hdiffer.imp_of_mem fun {e e'} he he' hne x hx hx' => ?_
      have hsame := (hkeys e he).same_trans hx.1 (ihkeys e' he' hx'.1)
      cases hne.symm.trans hsame
    refine mapping_same.2 ⟨entries, rfl, hlen.symm, fun e' he' => ?_⟩
    obtain ⟨e, he, hkey, hvalue⟩ := exists_partner hlen hab hapart e' he'
    exact ⟨e, he, ihkeys e he hkey, ihvalues e he hvalue⟩

end UniqueKeys

end Yaml.Value

end Simulcast
