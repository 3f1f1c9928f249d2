import Simulcast.Proofs.Config.Paths
import Simulcast.Proofs.Yaml.Reading

/-!
# What a merge overrides

Merging lays one tree over another. A key of both has the two values merged, and every other key has
the value of the tree that has it. So along a path of keys the upper tree decides as long as it
leads anywhere: to a value of its own, to a mapping that is merged with the one below it, or to
something that is no mapping, behind which nothing of the lower tree is left.
-/

namespace Simulcast

open Yaml Value

namespace Config

variable {base top entries : Entries} {d e u v k : Value} {q : List Value}

/-! ### One mapping over another -/

theorem mergeEntries_cons (base : Entries) (k v : Value) (rest : Entries) :
    mergeEntries base ((k, v) :: rest) =
      mergeEntries (Entries.upsert k (fun old => merge old v) v base) rest := rfl

theorem merge_mapping (base top : Entries) :
    merge (.mapping base) (.mapping top) = .mapping (mergeEntries base top) := rfl

/-- The value over another one, if there is one. -/
def overlay (below : Option Value) (v : Value) : Value := below.elim v fun u => merge u v

theorem get?_mergeEntries (hbase : ∀ e ∈ base, UniqueKeys e.1)
    (hdiffer : top.Pairwise fun e e' => e.1.same e'.1 = false)
    (htop : ∀ e ∈ top, UniqueKeys e.1) (key : Value) :
    Entries.get? (mergeEntries base top) key =
      match Entries.get? top key with
      | some v => some (overlay (Entries.get? base key) v)
      | none => Entries.get? base key := by
  induction top generalizing base with
  | nil => rfl
  | cons entry rest ih =>
    obtain ⟨k, v⟩ := entry
    obtain ⟨hother, hrestdiffer⟩ := List.pairwise_cons.1 hdiffer
    obtain ⟨hk, hrest⟩ := List.forall_mem_cons.1 htop
    rw [mergeEntries_cons, ih (Entries.uniqueKeys_upsert hbase hk) hrestdiffer hrest,
      Entries.get?_cons]
    by_cases hsame : k.same key = true
    · have hnone : Entries.get? rest key = none := by
        cases hget : Entries.get? rest key with
        | none => rfl
        | some w =>
          obtain ⟨k', hmem, hsame'⟩ := Entries.exists_mem_of_get? hget
          have hboth := hk.same_trans hsame ((hrest _ hmem).same_symm hsame')
          cases (hother _ hmem).symm.trans hboth
      rw [hnone, if_pos hsame, Entries.get?_upsert_same hbase hk hsame]
      rfl
    · rw [if_neg hsame, Entries.get?_upsert_other hbase hk hsame]

theorem keys_mergeEntries (hdiffer : top.Pairwise fun e e' => e.1.same e'.1 = false)
    (base : Entries) :
    (mergeEntries base top).map (·.1) =
      base.map (·.1) ++ (top.map (·.1)).filter fun k => !Entries.has base k := by
  induction top generalizing base with
  | nil => exact (List.append_nil _).symm
  | cons entry rest ih =>
    obtain ⟨k, v⟩ := entry
    obtain ⟨hother, hrestdiffer⟩ := List.pairwise_cons.1 hdiffer
    have hsame : ((rest.map (·.1)).filter fun k' =>
          !Entries.has (Entries.upsert k (fun old => merge old v) v base) k') =
        (rest.map (·.1)).filter fun k' => !Entries.has base k' := by
      refine List.filter_congr fun k' hk' => ?_
      obtain ⟨e, he, rfl⟩ := List.mem_map.1 hk'
      rw [Entries.has_upsert_other (hother e he)]
    rw [mergeEntries_cons, ih hrestdiffer, Entries.keys_upsert, hsame, List.append_assoc,
      List.map_cons, List.filter_cons]
    cases Entries.has base k <;> rfl

/-! ### Along a path -/

theorem merge_of_not_mapping (h : ∀ entries, v ≠ .mapping entries) (u : Value) :
    merge u v = v := by
  cases v with
  | mapping entries => exact (h entries rfl).elim
  | _ => cases u <;> rfl

theorem merge_over_other (h : ∀ entries, u ≠ .mapping entries) (v : Value) : merge u v = v := by
  cases u with
  | mapping entries => exact (h entries rfl).elim
  | _ => cases v <;> rfl

def below? (tree k : Value) : Option Value :=
  match tree with
  | .mapping entries => Entries.get? entries k
  | _ => none

/-- The value that a path of keys leads to. -/
def resolve? (tree : Value) : List Value → Option Value
  | [] => some tree
  | k :: rest => (below? tree k).bind (resolve? · rest)

theorem resolve?_cons (tree k : Value) (rest : List Value) :
    resolve? tree (k :: rest) = (below? tree k).bind (resolve? · rest) := rfl

theorem find?_eq_resolve? (tree : Value) (path : List String) :
    find? tree path = resolve? tree (path.map key) := by
  induction path generalizing tree with
  | nil => exact find?_nil tree
  | cons name rest ih =>
    have hchild : child? tree name = below? tree (key name) := by cases tree <;> rfl
    rw [find?_cons, hchild]
    exact congrArg (Option.bind _) (funext ih)

theorem below?_uniqueKeys (h : d.UniqueKeys) (hbelow : below? d k = some v) : v.UniqueKeys := by
  cases h with
  | mapping _ _ hvalues =>
    obtain ⟨k', hmem, -⟩ := Entries.exists_mem_of_get? hbelow
    exact hvalues _ hmem
  | _ => cases hbelow

theorem resolve?_uniqueKeys (h : d.UniqueKeys) (hresolve : resolve? d q = some v) :
    v.UniqueKeys := by
  induction q generalizing d with
  | nil => exact Option.some.inj hresolve ▸ h
  | cons k rest ih =>
    obtain ⟨w, hbelow, hrest⟩ := Option.bind_eq_some_iff.1 hresolve
    exact ih (below?_uniqueKeys h hbelow) hrest

theorem below?_merge (hd : d.UniqueKeys) (he : (Value.mapping top).UniqueKeys) (k : Value) :
    below? (merge d (.mapping top)) k =
      match below? (.mapping top) k with
      | some v => some (overlay (below? d k) v)
      | none => below? d k := by
  obtain ⟨hdiffer, hkeys, -⟩ := he.of_mapping
  cases hd with
  | mapping _ hbase _ =>
    rw [merge_mapping]
    exact get?_mergeEntries hbase hdiffer hkeys k
  | _ =>
    rw [merge_over_other fun _ h => by cases h]
    cases below? (.mapping top) k <;> rfl

theorem overlay_of_not_mapping (h : ∀ entries, v ≠ .mapping entries) (below : Option Value) :
    overlay below v = v := by
  cases below with
  | none => rfl
  | some u => exact merge_of_not_mapping h u

theorem resolve?_append (tree : Value) (p q : List Value) :
    resolve? tree (p ++ q) = (resolve? tree p).bind (resolve? · q) := by
  induction p generalizing tree with
  | nil => rfl
  | cons k rest ih =>
    rw [List.cons_append, resolve?_cons, resolve?_cons]
    cases below? tree k with
    | none => rfl
    | some v => exact ih v

/-- Where the upper tree leads to a value, the merge leads to it laid over that of the lower. -/
theorem resolve?_merge (hd : d.UniqueKeys) (he : e.UniqueKeys) (h : resolve? e q = some v) :
    resolve? (merge d e) q = some (overlay (resolve? d q) v) := by
  induction q generalizing d e with
  | nil =>
    obtain rfl := Option.some.inj h
    rfl
  | cons k rest ih =>
    obtain ⟨w, hbelow, hrest⟩ := Option.bind_eq_some_iff.1 h
    cases e with
    | mapping top =>
      rw [resolve?_cons, resolve?_cons, below?_merge hd he, hbelow]
      cases hlower : below? d k with
      | none => exact hrest
      | some u =>
        exact ih (below?_uniqueKeys hd hlower) (below?_uniqueKeys he hbelow) hrest
    | _ => cases hbelow

/-- Where the upper tree ends among its mappings, the lower one shows. -/
theorem resolve?_merge_unset (hd : d.UniqueKeys) (he : e.UniqueKeys) (h : resolve? e q = none)
    (hway : ∀ p v, p <+: q → resolve? e p = some v → ∃ entries, v = .mapping entries) :
    resolve? (merge d e) q = resolve? d q := by
  induction q generalizing d e with
  | nil => cases h
  | cons k rest ih =>
    obtain ⟨top, rfl⟩ := hway [] e List.nil_prefix rfl
    rw [resolve?_cons] at h
    rw [resolve?_cons, resolve?_cons, below?_merge hd he]
    cases hbelow : below? (.mapping top) k with
    | none => rfl
    | some w =>
      have hrest : resolve? w rest = none := by rwa [hbelow] at h
      cases hlower : below? d k with
      | none => exact hrest
      | some u =>
        refine ih (below?_uniqueKeys hd hlower) (below?_uniqueKeys he hbelow) hrest ?_
        intro p v hp hv
        refine hway (k :: p) v (List.cons_prefix_cons.2 ⟨rfl, hp⟩) ?_
        rw [resolve?_cons, hbelow]
        exact hv

theorem resolve?_merge_cut {p : List Value} (hd : d.UniqueKeys) (he : e.UniqueKeys)
    (hp : p <+: q) (hne : p ≠ q) (h : resolve? e p = some v)
    (hv : ∀ entries, v ≠ .mapping entries) : resolve? (merge d e) q = none := by
  obtain ⟨rest, rfl⟩ := hp
  rw [resolve?_append, resolve?_merge hd he h, overlay_of_not_mapping hv]
  cases rest with
  | nil => exact (hne (List.append_nil p).symm).elim
  | cons k rest =>
    rw [Option.bind_some, resolve?_cons]
    cases v with
    | mapping entries => exact (hv entries rfl).elim
    | _ => rfl

/-! ### Merging again -/

theorem mergeEntries_of_get?
    (h : ∀ k v, (k, v) ∈ top → ∃ u, Entries.get? entries k = some u ∧ merge u v = u) :
    mergeEntries entries top = entries := by
  induction top with
  | nil => rfl
  | cons entry rest ih =>
    obtain ⟨k, v⟩ := entry
    obtain ⟨u, hget, hsame⟩ := h k v List.mem_cons_self
    rw [mergeEntries_cons, Entries.upsert_of_get? hget hsame]
    exact ih fun k v hmem => h k v (List.mem_cons_of_mem _ hmem)

/-- What a value was laid over, it changes no more. -/
theorem merge_overlay (he : e.UniqueKeys) (below : Option Value)
    (hbelow : ∀ u, below = some u → u.UniqueKeys) :
    merge (overlay below e) e = overlay below e := by
  induction he generalizing below with
  | @mapping top hdiffer hkeys hvalues _ ih =>
    have hself : merge (.mapping top) (.mapping top) = .mapping top := by
      rw [merge_mapping, mergeEntries_of_get? fun k v hmem =>
        ⟨v, Entries.get?_of_mem hdiffer hkeys hmem, ih _ hmem none fun _ h => nomatch h⟩]
    cases below with
    | none => exact hself
    | some d =>
      change merge (merge d _) _ = merge d _
      by_cases hd : ∃ base, d = .mapping base
      · obtain ⟨base, rfl⟩ := hd
        obtain ⟨-, hbase, hbasevalues⟩ := (hbelow _ rfl).of_mapping
        rw [merge_mapping, merge_mapping, mergeEntries_of_get? fun k v hmem => ?_]
        refine ⟨overlay (Entries.get? base k) v, ?_, ih _ hmem _ fun u hu => ?_⟩
        · rw [get?_mergeEntries hbase hdiffer hkeys, Entries.get?_of_mem hdiffer hkeys hmem]
        · obtain ⟨k', hmem', -⟩ := Entries.exists_mem_of_get? hu
          exact hbasevalues _ hmem'
      · have hlower : merge d (.mapping top) = .mapping top :=
          merge_over_other (fun base h => hd ⟨base, h⟩) _
        rw [hlower, hself]
  | _ =>
    rw [overlay_of_not_mapping fun _ h => by cases h]
    exact merge_of_not_mapping (fun _ h => by cases h) _

/-! ### Texts over the defaults -/

theorem lowerKey_uniqueKeys (h : k.UniqueKeys) : (lowerKey k).UniqueKeys := by
  cases k with
  | text name => exact .text _
  | _ => exact h

theorem lowerEntries_uniqueKeys (hkeys : ∀ e ∈ entries, e.1.UniqueKeys)
    (hvalues : ∀ e ∈ entries, (lowerKeys e.2).UniqueKeys) {done : Entries}
    (hdone : (Value.mapping done).UniqueKeys) :
    (Value.mapping (lowerEntries done entries)).UniqueKeys := by
  induction entries generalizing done with
  | nil => exact hdone
  | cons entry rest ih =>
    obtain ⟨hk, hrestkeys⟩ := List.forall_mem_cons.1 hkeys
    obtain ⟨hv, hrestvalues⟩ := List.forall_mem_cons.1 hvalues
    exact ih hrestkeys hrestvalues (hdone.insert (lowerKey_uniqueKeys hk) hv)

theorem lowerItems_uniqueKeys {items : List Value} (h : ∀ v ∈ items, (lowerKeys v).UniqueKeys) :
    ∀ v ∈ lowerItems items, v.UniqueKeys := by
  induction items with
  | nil => exact List.forall_mem_nil _
  | cons item rest ih =>
    obtain ⟨hitem, hrest⟩ := List.forall_mem_cons.1 h
    exact List.forall_mem_cons.2 ⟨hitem, ih hrest⟩

theorem lowerKeys_uniqueKeys (h : v.UniqueKeys) : (lowerKeys v).UniqueKeys := by
  induction h with
  | mapping _ hkeys _ _ ih => exact lowerEntries_uniqueKeys hkeys ih .empty
  | sequence _ ih => exact .sequence (lowerItems_uniqueKeys ih)
  | tagged tag hvalue => exact .tagged tag hvalue
  | null => exact .null
  | bool b => exact .bool b
  | integer n => exact .integer n
  | float x => exact .float x
  | text s => exact .text s

theorem named_uniqueKeys {fields : List (String × Value)}
    (hnames : (fields.map (·.1)).Nodup) (hvalues : ∀ f ∈ fields, UniqueKeys f.2) :
    (named fields).UniqueKeys := by
  refine .mapping ?_ (List.forall_mem_map.2 fun f _ => .text f.1) (List.forall_mem_map.2 hvalues)
  rw [List.Nodup, List.pairwise_map] at hnames
  exact List.pairwise_map.2 (hnames.imp fun hne => by simpa [same] using hne)

theorem defaults_uniqueKeys : defaults.UniqueKeys := by
  refine named_uniqueKeys (by decide) ?_
  simp only [List.forall_mem_cons]
  refine ⟨named_uniqueKeys (by decide) ?_, named_uniqueKeys (by decide) ?_,
    named_uniqueKeys (by decide) ?_, named_uniqueKeys (by decide) ?_, List.forall_mem_nil _⟩
  all_goals simp [UniqueKeys.text, UniqueKeys.integer, UniqueKeys.bool]

theorem find?_merge_read {text : String} {tree : Value} (hread : Yaml.read text = some tree)
    {path : List String} (h : find? (lowerKeys tree) path = some v)
    (hv : ∀ entries, v ≠ .mapping entries) :
    find? (merge defaults (lowerKeys tree)) path = some v := by
  have htree := lowerKeys_uniqueKeys (read_uniqueKeys hread)
  rw [find?_eq_resolve?] at h ⊢
  rw [resolve?_merge defaults_uniqueKeys htree h, overlay_of_not_mapping hv]

/-! ### What a merge overrides -/

/-- Along every path of keys, the upper tree decides where it leads to a value of its own and where
one is in the way; where it ends among its mappings, the lower tree shows. Where both have a
mapping, the merge has the keys of the lower one and then those that only the upper one has. Merging
once more changes nothing. Every text that is read makes such a tree, so whatever it sets is found
in the configuration that it makes of the defaults. -/
theorem merge_overrides (hd : d.UniqueKeys) (he : e.UniqueKeys) :
    (∀ q,
      (∀ v, resolve? e q = some v →
        (∀ entries, v ≠ .mapping entries) ∨ (∀ entries, resolve? d q ≠ some (.mapping entries)) →
        resolve? (merge d e) q = some v) ∧
      (∀ base top, resolve? d q = some (.mapping base) → resolve? e q = some (.mapping top) →
        ∃ both, resolve? (merge d e) q = some (.mapping both) ∧
          both.map (·.1) =
            base.map (·.1) ++ (top.map (·.1)).filter fun k => !Entries.has base k) ∧
      (resolve? e q = none →
        (∀ p v, p <+: q → resolve? e p = some v → ∃ entries, v = .mapping entries) →
        resolve? (merge d e) q = resolve? d q) ∧
      (∀ p v, p <+: q → p ≠ q → resolve? e p = some v → (∀ entries, v ≠ .mapping entries) →
        resolve? (merge d e) q = none)) ∧
    merge (merge d e) e = merge d e ∧
    ∀ text tree, Yaml.read text = some tree → ∀ path v, find? (lowerKeys tree) path = some v →
      (∀ entries, v ≠ .mapping entries) →
      find? (merge defaults (lowerKeys tree)) path = some v := by
  refine ⟨fun q => ⟨fun v hv hkind => ?_, fun base top hbase htop => ?_,
    resolve?_merge_unset hd he, fun p v hp hne => resolve?_merge_cut hd he hp hne⟩,
    merge_overlay he (some d) fun u hu => Option.some.inj hu ▸ hd,
    fun text tree hread path v => find?_merge_read hread⟩
  · rw [resolve?_merge hd he hv]
    obtain hother | hlower := hkind
    · rw [overlay_of_not_mapping hother]
    · cases hu : resolve? d q with
      | none => rfl
      | some u =>
        have hmerge : merge u v = v := merge_over_other (fun entries h => hlower entries (h ▸ hu)) v
        exact congrArg some hmerge
  · obtain ⟨hdiffer, -, -⟩ := (resolve?_uniqueKeys he htop).of_mapping
    refine ⟨mergeEntries base top, ?_, keys_mergeEntries hdiffer base⟩
    rw [resolve?_merge hd he htop, hbase]
    rfl

/-- A file that moves the port, takes the section of the preview away and brings in another. -/
def movedPort : Value :=
  named
    [("restreamer", named [("port", .integer 9090)]), ("preview", .null),
     ("recording", named [("format", .text "mkv")])]

theorem merge_overrides_movedPort :
    defaults.UniqueKeys ∧ movedPort.UniqueKeys ∧
      resolve? (merge defaults movedPort) [.text "restreamer", .text "port"] =
        some (.integer 9090) ∧
      resolve? (merge defaults movedPort) [.text "restreamer", .text "host"] =
        some (.text "localhost") ∧
      resolve? (merge defaults movedPort) [.text "preview", .text "default_duration_secs"] = none ∧
      merge (merge defaults movedPort) movedPort = merge defaults movedPort := by
  have hmoved : movedPort.UniqueKeys := by
    refine named_uniqueKeys (by decide) ?_
    simp only [List.forall_mem_cons]
    refine ⟨named_uniqueKeys (by decide) ?_, .null, named_uniqueKeys (by decide) ?_,
      List.forall_mem_nil _⟩
    all_goals simp [UniqueKeys.text, UniqueKeys.integer]
  obtain ⟨hpaths, hagain, _⟩ := merge_overrides defaults_uniqueKeys hmoved
  obtain ⟨hport, -⟩ := hpaths [.text "restreamer", .text "port"]
  obtain ⟨-, -, hhost, -⟩ := hpaths [.text "restreamer", .text "host"]
  obtain ⟨-, -, -, hpreview⟩ := hpaths [.text "preview", .text "default_duration_secs"]
  have hway : ∀ p v, p <+: [.text "restreamer", .text "host"] → resolve? movedPort p = some v →
      ∃ entries, v = .mapping entries := by
    intro p v hp hv
    obtain rfl | ⟨rest, rfl, rfl | rfl⟩ :
        p = [] ∨ ∃ rest, p = .text "restreamer" :: rest ∧ (rest = [] ∨ rest = [.text "host"]) := by
      simpa [List.prefix_cons_iff] using hp
    · exact ⟨_, (Option.some.inj hv).symm⟩
    · have hsection : resolve? movedPort [.text "restreamer"] =
          some (named [("port", .integer 9090)]) := rfl
      exact ⟨_, (Option.some.inj (hsection.symm.trans hv)).symm⟩
    · have hunset : resolve? movedPort [.text "restreamer", .text "host"] = none := rfl
      cases hunset.symm.trans hv
  exact ⟨defaults_uniqueKeys, hmoved, hport _ rfl (.inl fun _ h => nomatch h), hhost rfl hway,
    hpreview [.text "preview"] .null ⟨[.text "default_duration_secs"], rfl⟩ (by simp) rfl
      (fun _ h => nomatch h), hagain⟩

end Config

end Simulcast
