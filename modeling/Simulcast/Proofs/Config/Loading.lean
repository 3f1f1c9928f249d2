import Simulcast.Config.Load
import Simulcast.Proofs.Config.Paths

/-!
# Loading a file and reading its text

A configuration is loaded in two steps: the tree of the file over the defaults, then the overrides.
Without overrides a file is loaded exactly when its text can be read as a configuration, and the two
are alike unless the text says nothing: the file then leaves the defaults, and the text leaves a
configuration without any settings.
-/

namespace Simulcast

open Yaml

namespace Config

variable {given contents : String} {s : Surroundings} {c loaded built : Config} {tree : Value}

def fileTree (given : String) (s : Surroundings) : Except ConfigError Value :=
  match s.textAt (join (chooseDirectory given s) fileName) with
  | some contents => ofFile contents
  | none => .ok (lowerKeys defaults)

/-- The configuration that a tree is loaded as. -/
def located (given : String) (s : Surroundings) (tree : Value) : Config where
  directory := chooseDirectory given s
  file := join (chooseDirectory given s) fileName
  root := overrideAll tree s.assignments

theorem load_eq (given : String) (s : Surroundings) :
    load given s = (fileTree given s).map (located given s) := by
  unfold load fileTree
  dsimp only
  cases s.textAt (join (chooseDirectory given s) fileName) with
  | none => rfl
  | some contents =>
    dsimp only
    cases ofFile contents <;> rfl

theorem load_eq_ok :
    load given s = .ok c ↔ ∃ tree, fileTree given s = .ok tree ∧ located given s tree = c := by
  rw [load_eq]
  cases fileTree given s <;> simp [Except.map]

theorem override_of_other {a : String × String} (h : overridePath? a.1 = none) (tree : Value) :
    override tree a = tree := by
  rw [override, h]

theorem overrideAll_of_others {assignments : List (String × String)} (tree : Value)
    (h : ∀ a ∈ assignments, overridePath? a.1 = none) : overrideAll tree assignments = tree := by
  induction assignments with
  | nil => rfl
  | cons a assignments ih =>
    obtain ⟨hfirst, hrest⟩ := List.forall_mem_cons.1 h
    rw [overrideAll, List.foldl_cons, override_of_other hfirst]
    exact ih hrest

/-! ### The same text read twice -/

theorem read_of_stages {tokens : List Token} {node : Node}
    (htokens : tokens? contents.toList = some tokens) (hnode : Node.readOnly tokens = some node)
    (htree : valueOf? node = some tree) : Yaml.read contents = some tree := by
  rw [Yaml.read, readAll, htokens, Option.bind_some, hnode, Option.bind_some, htree]

theorem ofText_eq_ok :
    ofText contents = .ok c ↔
      ∃ tree, Yaml.read contents = some tree ∧ { root := overDefaults tree } = c := by
  unfold ofText
  cases Yaml.read contents <;> simp

theorem ofFile_eq_ok :
    ofFile contents = .ok tree ↔
      (Yaml.read contents = some .null ∧ lowerKeys defaults = tree) ∨
        ∃ top, Yaml.read contents = some top ∧ top ≠ .null ∧ overDefaults top = tree := by
  unfold ofFile
  cases Yaml.read contents with
  | none => simp
  | some top => cases top <;> simp [Value.isNull]

theorem read_isSome_iff : (∃ tree, ofFile contents = .ok tree) ↔ ∃ c, ofText contents = .ok c := by
  unfold ofFile ofText
  cases Yaml.read contents <;> simp

theorem set_ok_iff {path : List String} {value : Value} :
    (∃ c', c.set path value = .ok c') ↔ ¬ Blocked c.root path := by
  rw [← @put_ok_iff c.root value, set]
  cases put value path c.root <;> simp

/-- Over the defaults, a text that says nothing leaves no mapping to look anything up in. -/
theorem blocked_overDefaults_null (name : String) : Blocked (overDefaults .null) [name] :=
  blocked_cons fun entries h => by cases h

theorem logging_of_defaults : (find? (lowerKeys defaults) ["logging"]).isSome = true := rfl

theorem logging_lost_over_null :
    find? (lowerKeys defaults) ["logging"] ≠ find? (overDefaults .null) ["logging"] := by
  intro hsame
  have hfound := logging_of_defaults
  rw [hsame, find?_of_blocked (blocked_overDefaults_null "logging")] at hfound
  cases hfound

/-- With no override among the variables, a file is loaded exactly when its text can be read, and
they hold the same values and take the same changes exactly when the text says anything. -/
theorem loaders_agree_iff
    (hfile : s.textAt (join (chooseDirectory given s) fileName) = some contents)
    (hfree : ∀ a ∈ s.assignments, overridePath? a.1 = none) :
    ((∃ c, load given s = .ok c) ↔ ∃ c, ofText contents = .ok c) ∧
      ∀ loaded built, load given s = .ok loaded → ofText contents = .ok built →
        ((∀ path, find loaded.root path = find built.root path) ↔
            Yaml.read contents ≠ some .null) ∧
          ((∀ path value, (∃ c, loaded.set path value = .ok c) ↔
              ∃ c, built.set path value = .ok c) ↔ Yaml.read contents ≠ some .null) := by
  have htree : fileTree given s = ofFile contents := by rw [fileTree, hfile]
  refine ⟨?_, ?_⟩
  · rw [← read_isSome_iff, ← htree, load_eq]
    cases fileTree given s <;> simp [Except.map]
  · intro loaded built hloaded hbuilt
    obtain ⟨tree, hfound, rfl⟩ := load_eq_ok.1 hloaded
    obtain ⟨top, hread, rfl⟩ := ofText_eq_ok.1 hbuilt
    have hroot : (located given s tree).root = tree := overrideAll_of_others tree hfree
    simp only [set_ok_iff, hroot, hread]
    rw [htree] at hfound
    obtain ⟨hnull, rfl⟩ | ⟨top', hread', htop, rfl⟩ := ofFile_eq_ok.1 hfound
    · obtain rfl : top = .null := Option.some.inj (hread.symm.trans hnull)
      have hblocked := blocked_overDefaults_null "logging"
      have hfree := not_blocked_of_found logging_of_defaults
      refine ⟨⟨fun h => ?_, fun h => (h rfl).elim⟩, ⟨fun h => ?_, fun h => (h rfl).elim⟩⟩
      · exact (logging_lost_over_null (congrArg Except.toOption (h ["logging"]))).elim
      · exact ((h ["logging"] .null).1 hfree hblocked).elim
    · obtain rfl : top = top' := Option.some.inj (hread.symm.trans hread')
      have hsays : some top ≠ some .null := fun h => htop (Option.some.inj h)
      exact ⟨⟨fun _ => hsays, fun _ _ => rfl⟩, ⟨fun _ => hsays, fun _ _ _ => Iff.rfl⟩⟩

def noisyText : String := "logging: {level: debug}"

def holding (contents : String) : Surroundings where
  textAt := fun path => if path = "conf/config.yaml" then some contents else none

theorem read_noisyText :
    Yaml.read noisyText =
      some (.mapping [(.text "logging", .mapping [(.text "level", .text "debug")])]) := by
  have htokens : tokens? noisyText.toList =
      some [.blockMappingStart, .key, .scalar "logging" true, .value, .flowMappingStart, .key,
        .scalar "level" true, .value, .scalar "debug" true, .flowMappingEnd, .blockEnd] := by
    decide +kernel
  exact read_of_stages htokens rfl rfl

theorem loaders_agree_iff_noisy :
    ∃ loaded built, load "conf" (holding noisyText) = .ok loaded ∧ ofText noisyText = .ok built ∧
      ∀ path, find loaded.root path = find built.root path := by
  have hfile : (holding noisyText).textAt
      (join (chooseDirectory "conf" (holding noisyText)) fileName) = some noisyText := rfl
  obtain ⟨hloads, hagree⟩ := loaders_agree_iff hfile (by simp [holding])
  have hbuilt := ofText_eq_ok.2 ⟨_, read_noisyText, rfl⟩
  obtain ⟨loaded, hloaded⟩ := hloads.2 ⟨_, hbuilt⟩
  have hsays : Yaml.read noisyText ≠ some .null := by
    rw [read_noisyText]
    rintro ⟨⟩
  exact ⟨loaded, _, hloaded, hbuilt, (hagree _ _ hloaded hbuilt).1.2 hsays⟩

/-- An empty file leaves the port as it is by default, and an empty text leaves none. -/
theorem loaders_differ_on_empty_text :
    ∃ loaded built, load "conf" (holding "") = .ok loaded ∧ ofText "" = .ok built ∧
      find loaded.root portPath = .ok (.integer 8080) ∧
      find built.root portPath = .error (.notAMapping []) :=
  ⟨_, _, rfl, rfl, rfl, rfl⟩

end Config

end Simulcast
