import Simulcast.Proofs.Config.Overrides
import Simulcast.Proofs.Text.LetterCase

/-!
# The letter case of keys

What is read from a file or a text has all its keys in lower case, and so have the paths of changes.
A value that a change brings along goes in as it is. The keys stay in lower case exactly as long as
every change that goes through brings a value whose keys are, and what is stored is then found in
any letter case.
-/

namespace Simulcast.Config

open Yaml

/-- A value is another one, or one that its mappings and lists lead to. -/
inductive Inside : Value → Value → Prop
  | here (v : Value) : Inside v v
  | entry {k v w : Value} {entries : Entries} (hmem : (k, w) ∈ entries) (h : Inside v w) :
    Inside v (.mapping entries)
  | item {v w : Value} {items : List Value} (hmem : w ∈ items) (h : Inside v w) :
    Inside v (.sequence items)

/-- Every text that is a key of a mapping inside is in lower case. -/
def KeysLower (tree : Value) : Prop :=
  ∀ entries, Inside (.mapping entries) tree →
    ∀ name v, (.text name, v) ∈ entries → Text.lowercase name = name

variable {tree value changed v w : Value} {entries : Entries} {items : List Value}
  {k key : Value} {path names : List String} {change : Change} {changes sets : List Change}

theorem Inside.trans {u : Value} (hu : Inside u v) (hv : Inside v w) : Inside u w := by
  induction hv with
  | here => exact hu
  | entry hmem _ ih => exact .entry hmem (ih hu)
  | item hmem _ ih => exact .item hmem (ih hu)

theorem inside_of_find? (h : find? tree path = some v) : Inside v tree := by
  induction path generalizing tree with
  | nil =>
    rw [find?_nil] at h
    obtain rfl := Option.some.inj h
    exact .here tree
  | cons name path ih =>
    rw [find?_cons] at h
    obtain ⟨child, hchild, hrest⟩ := Option.bind_eq_some_iff.1 h
    cases tree with
    | mapping entries => exact .entry (Entries.mem_of_get? hchild) (ih hrest)
    | _ => cases hchild

namespace KeysLower

theorem inside (h : KeysLower tree) (hv : Inside v tree) : KeysLower v :=
  fun entries hentries => h entries (hentries.trans hv)

theorem mapping (hnames : ∀ name v, (.text name, v) ∈ entries → Text.lowercase name = name)
    (hvalues : ∀ k v, (k, v) ∈ entries → KeysLower v) : KeysLower (.mapping entries) := by
  intro entries' hinside
  cases hinside with
  | here => exact hnames
  | entry hmem hinside => exact hvalues _ _ hmem entries' hinside

theorem sequence (h : ∀ v ∈ items, KeysLower v) : KeysLower (.sequence items) := by
  intro entries hinside
  cases hinside with
  | item hmem hinside => exact h _ hmem entries hinside

theorem empty : KeysLower (.mapping []) := mapping nofun nofun

theorem insert (h : KeysLower (.mapping entries)) (hvalue : KeysLower value)
    (hkey : ∀ name, key = .text name → Text.lowercase name = name) :
    KeysLower (.mapping (Entries.insert entries key value)) := by
  refine mapping ?_ ?_
  · intro name v hmem
    obtain hold | ⟨-, hnew⟩ := Entries.mem_insert hmem
    · exact h entries (.here _) name v hold
    · exact hkey name (hnew name rfl)
  · intro k v hmem
    obtain hold | ⟨rfl, -⟩ := Entries.mem_insert hmem
    · exact h.inside (.entry hold (.here v))
    · exact hvalue

end KeysLower

theorem lowercase_of_key {name name' : String} (h : Config.key name = .text name') :
    Text.lowercase name' = name' := by
  obtain rfl := Value.text.inj h
  exact Text.lowercase_lowercase name

/-! ### Trees that are read -/

theorem lowerKey_text {name : String} (h : lowerKey k = .text name) :
    Text.lowercase name = name := by
  cases k with
  | text s => exact lowercase_of_key h
  | _ => cases h

mutual

theorem lowerKeys_keysLower (tree : Value) : KeysLower (lowerKeys tree) := by
  cases tree with
  | mapping entries =>
    rw [lowerKeys]
    exact lowerEntries_keysLower entries .empty
  | sequence items =>
    rw [lowerKeys]
    exact .sequence (lowerItems_keysLower items)
  | null | bool | integer | float | text | tagged =>
    unfold lowerKeys
    intro entries hinside
    cases hinside

/-- The entries that are done have their keys in lower case already. -/
theorem lowerEntries_keysLower (entries : Entries) {done : Entries}
    (h : KeysLower (.mapping done)) : KeysLower (.mapping (lowerEntries done entries)) := by
  cases entries with
  | nil => rwa [lowerEntries]
  | cons entry rest =>
    obtain ⟨k, v⟩ := entry
    rw [lowerEntries]
    exact lowerEntries_keysLower rest
      (h.insert (lowerKeys_keysLower v) fun name => lowerKey_text)

theorem lowerItems_keysLower (items : List Value) : ∀ v ∈ lowerItems items, KeysLower v := by
  cases items with
  | nil => nofun
  | cons item items =>
    rw [lowerItems]
    exact List.forall_mem_cons.2 ⟨lowerKeys_keysLower item, lowerItems_keysLower items⟩

end

theorem fileTree_keysLower {given : String} {s : Surroundings} (h : fileTree given s = .ok tree) :
    KeysLower tree := by
  unfold fileTree at h
  split at h
  next contents _ =>
    obtain ⟨-, rfl⟩ | ⟨top, -, -, rfl⟩ := ofFile_eq_ok.1 h <;> exact lowerKeys_keysLower _
  next =>
    obtain rfl := Except.ok.inj h
    exact lowerKeys_keysLower defaults

/-! ### Changes -/

theorem put_keysLower (htree : KeysLower tree) (hvalue : KeysLower value)
    (h : put value path tree = .ok changed) : KeysLower changed := by
  induction path generalizing tree changed with
  | nil =>
    rw [put_nil] at h
    exact Except.ok.inj h ▸ hvalue
  | cons name rest ih =>
    obtain ⟨entries, inner, rfl, hrest, rfl⟩ := put_cons_eq_ok h
    refine htree.insert (ih ?_ hrest) fun _ => lowercase_of_key
    cases hchild : Entries.get? entries (Config.key name) with
    | none => exact .empty
    | some child => exact htree.inside (.entry (Entries.mem_of_get? hchild) (.here child))

/-- A change keeps the keys in lower case unless it goes through with a value that has others. -/
theorem keysLower_apply_iff (h : KeysLower tree) :
    KeysLower (change.apply tree) ↔ (¬ Blocked tree change.path → KeysLower change.value) := by
  constructor
  · intro hafter hfree
    exact hafter.inside (inside_of_find? (find?_put (Change.put_of_not_blocked hfree)))
  · intro hvalue
    by_cases hblocked : Blocked tree change.path
    · rwa [Change.apply_of_blocked hblocked]
    · exact put_keysLower h (hvalue hblocked) (Change.put_of_not_blocked hblocked)

def KeysStayLower (tree : Value) : List Change → Prop
  | [] => KeysLower tree
  | change :: rest => KeysLower tree ∧ KeysStayLower (change.apply tree) rest

def BringLowerKeys (tree : Value) : List Change → Prop
  | [] => True
  | change :: rest =>
    (¬ Blocked tree change.path → KeysLower change.value) ∧
      BringLowerKeys (change.apply tree) rest

theorem keysStayLower_iff (h : KeysLower tree) :
    KeysStayLower tree changes ↔ BringLowerKeys tree changes := by
  induction changes generalizing tree with
  | nil => exact ⟨fun _ => trivial, fun _ => h⟩
  | cons change rest ih =>
    constructor
    · rintro ⟨-, hrest⟩
      have hafter : KeysLower (change.apply tree) := by
        cases rest with
        | nil => exact hrest
        | cons => exact hrest.1
      exact ⟨(keysLower_apply_iff h).1 hafter, (ih hafter).1 hrest⟩
    · rintro ⟨hvalue, hrest⟩
      have hafter := (keysLower_apply_iff h).2 hvalue
      exact ⟨h, (ih hafter).2 hrest⟩

theorem KeysStayLower.last (h : KeysStayLower tree changes) :
    KeysLower (changes.foldl Change.apply tree) := by
  induction changes generalizing tree with
  | nil => exact h
  | cons change rest ih => exact ih h.2

/-! ### What is stored -/

/-- The value that exactly these keys lead to. -/
def storedAt? (tree : Value) : List String → Option Value
  | [] => some tree
  | name :: rest =>
    match tree with
    | .mapping entries => (Entries.get? entries (.text name)).bind (storedAt? · rest)
    | _ => none

theorem find_of_stored (h : KeysLower tree) (hstored : storedAt? tree names = some v)
    (hpath : path.map Text.lowercase = names.map Text.lowercase) : find tree path = .ok v := by
  rw [find_eq_ok, find?_congr tree hpath]
  clear hpath
  induction names generalizing tree with
  | nil => rw [find?_nil]; exact hstored
  | cons name rest ih =>
    cases tree with
    | mapping entries =>
      obtain ⟨child, hchild, hrest⟩ := Option.bind_eq_some_iff.1 hstored
      have hmem := Entries.mem_of_get? hchild
      have hkey : Config.key name = .text name :=
        congrArg Value.text (h entries (.here _) name child hmem)
      rw [find?_cons, child?, hkey, hchild]
      exact ih (h.inside (.entry hmem (.here child))) hrest
    | _ => cases hstored

/-! ### Configurations -/

/-- What a configuration is made of. -/
inductive Source where
  | text (contents : String)
  | directory (given : String) (s : Surroundings)

namespace Source

def config : Source → Except ConfigError Config
  | .text contents => ofText contents
  | .directory given s => load given s

def withoutOverrides : Source → Source
  | .text contents => .text contents
  | .directory given s => .directory given s.withoutOverrides

def overrides : Source → List Change
  | .text _ => []
  | .directory _ s => Config.overrides s.assignments

variable {source : Source} {c : Config}

/-- A configuration is that without the overrides, whose keys are in lower case, changed as the
overrides ask for. -/
theorem config_withoutOverrides (h : source.config = .ok c) :
    ∃ base, source.withoutOverrides.config = .ok base ∧ KeysLower base.root ∧
      c.root = source.overrides.foldl Change.apply base.root := by
  cases source with
  | text contents =>
    obtain ⟨tree, -, rfl⟩ := ofText_eq_ok.1 h
    exact ⟨_, h, lowerKeys_keysLower _, rfl⟩
  | directory given s =>
    obtain ⟨base, hbase, rfl⟩ := load_withoutOverrides h
    refine ⟨base, hbase, ?_, rfl⟩
    obtain ⟨tree, htree, rfl⟩ := load_eq_ok.1 hbase
    rw [located_withoutOverrides_root]
    exact fileTree_keysLower htree

end Source

/-- The configuration after some values were set; one that cannot be set changes nothing. -/
def afterSets (c : Config) : List Change → Config
  | [] => c
  | change :: rest =>
    match c.set change.path change.value with
    | .ok c' => c'.afterSets rest
    | .error _ => c.afterSets rest

theorem afterSets_root (c : Config) (sets : List Change) :
    (c.afterSets sets).root = sets.foldl Change.apply c.root := by
  induction sets generalizing c with
  | nil => rfl
  | cons change rest ih =>
    rw [afterSets, set, List.foldl_cons, Change.apply]
    cases put change.value change.path c.root with
    | ok changed => exact ih _
    | error error => exact ih c

/-- The keys of a configuration are in lower case all the time exactly when every override and every
value set that goes through brings a value whose keys are, and then a value that is stored under
some keys is found under them in any letter case. -/
theorem keys_stay_lower_iff {source : Source} {c : Config} (h : source.config = .ok c)
    (sets : List Change) :
    ∃ base, source.withoutOverrides.config = .ok base ∧
      (c.afterSets sets).root = (source.overrides ++ sets).foldl Change.apply base.root ∧
      (KeysStayLower base.root (source.overrides ++ sets) ↔
        BringLowerKeys base.root (source.overrides ++ sets)) ∧
      (KeysStayLower base.root (source.overrides ++ sets) →
        KeysLower (c.afterSets sets).root ∧
          ∀ names v, storedAt? (c.afterSets sets).root names = some v →
            ∀ path, path.map Text.lowercase = names.map Text.lowercase →
              find (c.afterSets sets).root path = .ok v) := by
  obtain ⟨base, hbase, hlower, hroot⟩ := source.config_withoutOverrides h
  have hafter : (c.afterSets sets).root =
      (source.overrides ++ sets).foldl Change.apply base.root := by
    rw [afterSets_root, hroot, List.foldl_append]
  refine ⟨base, hbase, hafter, keysStayLower_iff hlower, fun hstay => ?_⟩
  rw [hafter]
  exact ⟨hstay.last, fun names v hstored path hpath => find_of_stored hstay.last hstored hpath⟩

def hostChange : Change where
  path := ["RESTREAMER"]
  value := .mapping [(.text "host", .text "stream.lan")]

theorem keys_stay_lower_iff_host :
    ∃ c, load "" {} = .ok c ∧
      find (c.afterSets [hostChange]).root ["Restreamer", "HOST"] = .ok (.text "stream.lan") := by
  have hload : (Source.directory "" {}).config = .ok (located "" {} (lowerKeys defaults)) := rfl
  obtain ⟨base, -, -, hiff, hlower⟩ := keys_stay_lower_iff hload [hostChange]
  have hvalue : KeysLower hostChange.value := by
    refine .mapping ?_ ?_
    · intro name v hmem
      obtain ⟨⟨⟩, -⟩ := Prod.mk.inj (List.mem_singleton.1 hmem)
      rfl
    · intro k v hmem
      obtain ⟨-, rfl⟩ := Prod.mk.inj (List.mem_singleton.1 hmem)
      rintro entries ⟨⟩
  have hfound := (hlower (hiff.2 ⟨fun _ => hvalue, trivial⟩)).2
  have hsame : ["Restreamer", "HOST"].map Text.lowercase =
      ["restreamer", "host"].map Text.lowercase := by decide +kernel
  exact ⟨_, hload, hfound ["restreamer", "host"] _ rfl _ hsame⟩

def capitalHost : Surroundings where
  assignments := [("POLYEMESIS_CONFIG__RESTREAMER", "{Host: stream.lan}")]

/-- What comes in under such a key is not found again. -/
theorem capital_key_is_lost :
    ∃ c, load "" capitalHost = .ok c ∧ ¬ KeysLower c.root ∧
      storedAt? c.root ["restreamer", "Host"] = some (.text "stream.lan") ∧
      find c.root ["restreamer", "Host"] = .error (.missing ["restreamer", "Host"]) := by
  have hvalue : overrideValue "{Host: stream.lan}" =
      .mapping [(.text "Host", .text "stream.lan")] := by
    have htokens : tokens? "{Host: stream.lan}".toList =
        some [.flowMappingStart, .key, .scalar "Host" true, .value, .scalar "stream.lan" true,
          .flowMappingEnd] := by
      decide +kernel
    rw [overrideValue, read_of_stages htokens rfl rfl]
    rfl
  have hchanges : Config.overrides capitalHost.assignments =
      [⟨["RESTREAMER"], overrideValue "{Host: stream.lan}"⟩] := rfl
  refine ⟨_, load_eq_ok.2 ⟨_, rfl, rfl⟩, ?_⟩
  rw [located_root, hchanges, hvalue]
  refine ⟨fun hlower => ?_, rfl, rfl⟩
  have hfound : find _ ["restreamer", "Host"] = .ok (.text "stream.lan") :=
    find_of_stored hlower rfl rfl
  cases hfound

end Simulcast.Config
