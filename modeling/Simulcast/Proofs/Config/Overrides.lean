import Simulcast.Proofs.Config.Loading

/-!
# Overrides

What the variables override are changes of the tree that is loaded without them, one after another.
A single override is what a lookup at its path finds, unless something on the way is no mapping; it
is passed over then.
-/

namespace Simulcast

open Yaml

variable {assignments : List (String × String)} {s : Surroundings}

def Surroundings.withoutOverrides (s : Surroundings) : Surroundings where
  assignments := s.assignments.filter fun a => (Config.overridePath? a.1).isNone
  home := s.home
  isThere := s.isThere
  textAt := s.textAt

namespace Config

variable {given text : String} {keys : List String} {c : Config} {tree : Value}

/-- A value that is to go to a path. -/
structure Change where
  path : List String
  value : Value

/-- The tree after a change; one that is blocked leaves it as it is. -/
def Change.apply (tree : Value) (change : Change) : Value :=
  match put change.value change.path tree with
  | .ok changed => changed
  | .error _ => tree

namespace Change

variable {change : Change}

theorem apply_of_blocked (h : Blocked tree change.path) : change.apply tree = tree := by
  obtain ⟨error, hput⟩ : ∃ error, put change.value change.path tree = .error error :=
    put_of_blocked h
  rw [apply, hput]

theorem put_of_not_blocked (h : ¬ Blocked tree change.path) :
    put change.value change.path tree = .ok (change.apply tree) := by
  obtain ⟨changed, hput⟩ := put_ok_iff.2 h
  rw [apply, hput]

end Change

/-! ### The changes that variables ask for -/

def overrides (assignments : List (String × String)) : List Change :=
  assignments.filterMap fun a => (overridePath? a.1).map (⟨·, overrideValue a.2⟩)

theorem overrideAll_eq (tree : Value) (assignments : List (String × String)) :
    overrideAll tree assignments = (overrides assignments).foldl Change.apply tree := by
  induction assignments generalizing tree with
  | nil => rfl
  | cons a assignments ih =>
    rw [overrideAll, List.foldl_cons, overrides, List.filterMap_cons]
    cases hpath : overridePath? a.1 with
    | none =>
      rw [override_of_other hpath]
      exact ih tree
    | some path =>
      have hstep : override tree a = Change.apply tree ⟨path, overrideValue a.2⟩ := by
        rw [override, hpath]
        rfl
      rw [hstep]
      exact ih _

theorem located_root (given : String) (s : Surroundings) (tree : Value) :
    (located given s tree).root = (overrides s.assignments).foldl Change.apply tree :=
  overrideAll_eq tree s.assignments

theorem overrides_eq_filter (assignments : List (String × String)) :
    overrides assignments =
      overrides (assignments.filter fun a => (overridePath? a.1).isSome) := by
  rw [overrides, overrides, List.filterMap_filter]
  congr 1
  funext a
  cases overridePath? a.1 <;> rfl

theorem overridePath?_append (name : String) :
    overridePath? (overridePrefix ++ name) =
      some ((splitPairs name.toList).map String.ofList) := by
  have hprefix : overridePrefix.toList.isPrefixOf (overridePrefix ++ name).toList = true := by
    rw [String.toList_append, List.isPrefixOf_iff_prefix]
    exact List.prefix_append _ _
  rw [overridePath?, if_pos hprefix, String.toList_append, List.drop_left]

/-! ### Loading without them -/

theorem not_override_of_mem {a : String × String} (h : a ∈ s.withoutOverrides.assignments) :
    overridePath? a.1 = none := by
  simpa using (List.mem_filter.1 h).2

theorem chooseDirectory_withoutOverrides (given : String) (s : Surroundings) :
    chooseDirectory given s.withoutOverrides = chooseDirectory given s := by
  have hnamed : s.withoutOverrides.assignments.find? (·.1 == directoryVariable) =
      s.assignments.find? (·.1 == directoryVariable) := by
    rw [Surroundings.withoutOverrides, List.find?_filter]
    congr 1
    funext a
    cases hname : a.1 == directoryVariable with
    | false => simp
    | true =>
      rw [beq_iff_eq.1 hname]
      rfl
  unfold chooseDirectory
  rw [hnamed]
  rfl

theorem fileTree_withoutOverrides (given : String) (s : Surroundings) :
    fileTree given s.withoutOverrides = fileTree given s := by
  unfold fileTree
  rw [chooseDirectory_withoutOverrides]
  rfl

theorem located_withoutOverrides_root (given : String) (s : Surroundings) (tree : Value) :
    (located given s.withoutOverrides tree).root = tree :=
  overrideAll_of_others tree fun _ => not_override_of_mem

/-- Loading is loading without the overrides, and then making the changes that they ask for. -/
theorem load_withoutOverrides (h : load given s = .ok c) :
    ∃ base, load given s.withoutOverrides = .ok base ∧
      c = { base with root := (overrides s.assignments).foldl Change.apply base.root } := by
  obtain ⟨tree, htree, rfl⟩ := load_eq_ok.1 h
  refine ⟨located given s.withoutOverrides tree, load_eq_ok.2 ⟨tree, ?_, rfl⟩, ?_⟩
  · rw [fileTree_withoutOverrides, htree]
  · rw [located_withoutOverrides_root, ← overrideAll_eq]
    unfold located
    rw [chooseDirectory_withoutOverrides]

/-- A single override is what is found at its path, if nothing on the way is in its way. -/
theorem override_wins_unless_blocked
    (hkeys : (splitPairs ("__".intercalate keys).toList).map String.ofList = keys)
    (honly : s.assignments.filter (fun a => (overridePath? a.1).isSome) =
      [(overridePrefix ++ "__".intercalate keys, text)])
    (h : load given s = .ok c) :
    ∃ base, load given s.withoutOverrides = .ok base ∧
      (¬ Blocked base.root keys → find c.root keys = .ok (overrideValue text)) ∧
      (Blocked base.root keys → c = base ∧ ∃ error, find c.root keys = .error error) := by
  obtain ⟨base, hbase, rfl⟩ := load_withoutOverrides h
  have hchanges : overrides s.assignments = [⟨keys, overrideValue text⟩] := by
    rw [overrides_eq_filter, honly, overrides, List.filterMap_cons, overridePath?_append, hkeys]
    rfl
  rw [hchanges]
  refine ⟨base, hbase, fun hfree => ?_, fun hblocked => ?_⟩
  · have hput := @Change.put_of_not_blocked base.root ⟨keys, overrideValue text⟩ hfree
    exact find_eq_ok.2 (find?_put hput)
  · have hsame : Change.apply base.root ⟨keys, overrideValue text⟩ = base.root :=
      Change.apply_of_blocked hblocked
    rw [List.foldl_cons, hsame]
    exact ⟨rfl, find_of_blocked hblocked⟩

def twoMinutePreviews : Surroundings where
  assignments := [("POLYEMESIS_CONFIG__PREVIEW__DEFAULT_DURATION_SECS", "120")]

theorem override_wins_unless_blocked_preview :
    ∃ c, load "" twoMinutePreviews = .ok c ∧
      find c.root ["PREVIEW", "DEFAULT_DURATION_SECS"] = .ok (.integer 120) := by
  have hread : Yaml.read "120" = some (.integer 120) := by
    have htokens : tokens? "120".toList = some [.scalar "120" true] := by decide +kernel
    exact read_of_stages htokens rfl rfl
  have hkeys : (splitPairs ("__".intercalate ["PREVIEW", "DEFAULT_DURATION_SECS"]).toList).map
      String.ofList = ["PREVIEW", "DEFAULT_DURATION_SECS"] := rfl
  have honly : twoMinutePreviews.assignments.filter (fun a => (overridePath? a.1).isSome) =
      [(overridePrefix ++ "__".intercalate ["PREVIEW", "DEFAULT_DURATION_SECS"], "120")] := rfl
  have hload : load "" twoMinutePreviews =
      .ok (located "" twoMinutePreviews (lowerKeys defaults)) := load_eq_ok.2 ⟨_, rfl, rfl⟩
  obtain ⟨base, hbase, hwins, -⟩ := override_wins_unless_blocked hkeys honly hload
  have hroot : lowerKeys defaults = base.root := congrArg root (Except.ok.inj hbase)
  have hvalue : overrideValue "120" = .integer 120 := by
    rw [overrideValue, hread]
    rfl
  rw [hvalue, ← hroot] at hwins
  exact ⟨_, hload, hwins (not_blocked_of_found (by decide +kernel))⟩

def nullSection : Surroundings :=
  { holding "restreamer:\n" with
    assignments := [("POLYEMESIS_CONFIG__RESTREAMER__HOST", "stream.lan")] }

/-- What is null in the file is in the way of an override below it. -/
theorem override_below_null_is_passed_over :
    nullSection.assignments =
        [(overridePrefix ++ "__".intercalate ["RESTREAMER", "HOST"], "stream.lan")] ∧
      (splitPairs ("__".intercalate ["RESTREAMER", "HOST"]).toList).map String.ofList =
        ["RESTREAMER", "HOST"] ∧
      overrideValue "stream.lan" = .text "stream.lan" ∧
      ∃ c, load "conf" nullSection = .ok c ∧
        find c.root ["RESTREAMER", "HOST"] = .error (.notAMapping ["RESTREAMER"]) := by
  have hvalue : overrideValue "stream.lan" = .text "stream.lan" := by
    have htokens : tokens? "stream.lan".toList = some [.scalar "stream.lan" true] := by
      decide +kernel
    rw [overrideValue, read_of_stages htokens rfl rfl]
    rfl
  have hread : Yaml.read "restreamer:\n" = some (.mapping [(.text "restreamer", .null)]) := by
    have htokens : tokens? "restreamer:\n".toList =
        some [.blockMappingStart, .key, .scalar "restreamer" true, .value, .blockEnd] := by
      decide +kernel
    exact read_of_stages htokens rfl rfl
  have htree : fileTree "conf" nullSection =
      .ok (overDefaults (.mapping [(.text "restreamer", .null)])) := by
    change ofFile "restreamer:\n" = _
    exact ofFile_eq_ok.2 (.inr ⟨_, hread, nofun, rfl⟩)
  have hblocked : Blocked (overDefaults (.mapping [(.text "restreamer", .null)]))
      ["RESTREAMER", "HOST"] :=
    ⟨["RESTREAMER"], ["HOST"], .null, rfl, nofun, rfl, nofun⟩
  have hchanges : overrides nullSection.assignments =
      [⟨["RESTREAMER", "HOST"], overrideValue "stream.lan"⟩] := rfl
  refine ⟨rfl, rfl, hvalue, _, load_eq_ok.2 ⟨_, htree, rfl⟩, ?_⟩
  rw [located_root, hchanges, List.foldl_cons, Change.apply_of_blocked hblocked]
  rfl

end Config

end Simulcast
