import Simulcast.Proofs.Config.Overrides
import Simulcast.Proofs.Yaml.Plain

/-!
# Credentials that are set by a variable

The variable of a user name or a password is an override like any other, so its text is read as a
document, and the credential is the text or the number that this spells. A text that is no document
stands for itself; one that spells anything else leaves the credential empty. A plain line therefore
stays as it is unless it is a word for null or a truth value or a number in an unusual form.
-/

namespace Simulcast.Config

open Yaml

variable {v t : String} {s : Surroundings} {w : Value}

inductive Credential where
  | username
  | password
  deriving DecidableEq

namespace Credential

def setting : Credential → TextSetting
  | .username => .username
  | .password => .password

def variableName : Credential → String
  | .username => "POLYEMESIS_CONFIG__RESTREAMER__USERNAME"
  | .password => "POLYEMESIS_CONFIG__RESTREAMER__PASSWORD"

def keys : Credential → List String
  | .username => ["RESTREAMER", "USERNAME"]
  | .password => ["RESTREAMER", "PASSWORD"]

theorem overridePath_variableName (which : Credential) :
    overridePath? which.variableName = some which.keys := by
  cases which <;> rfl

theorem find?_keys (which : Credential) (tree : Value) :
    find? tree which.keys = find? tree which.setting.path := by
  refine find?_congr tree ?_
  cases which <;> decide

theorem not_blocked_defaults (which : Credential) :
    ¬ Blocked (lowerKeys defaults) which.keys := by
  refine not_blocked_of_found ?_
  cases which <;> decide +kernel

theorem fallback_setting (which : Credential) : which.setting.fallback = "" := by
  cases which <;> rfl

end Credential

variable {which : Credential}

/-! ### Texts and what they spell -/

theorem textOf?_of_number (h : w.numberText? = some t) : textOf? w = some t := by
  cases w with
  | text s => cases h
  | _ => exact h

/-- The text of a setting that is set by a variable with this text. -/
def spelledText (v : String) : String :=
  match Yaml.read v with
  | none => v
  | some w => (textOf? w).getD ""

theorem textOf?_overrideValue (v : String) :
    (textOf? (overrideValue v)).getD "" = spelledText v := by
  unfold overrideValue spelledText
  cases Yaml.read v <;> rfl

theorem spelledText_eq_self (h : isPlainLine v.toList = true) :
    spelledText v = v ↔ isNullWord v = false ∧ boolWord? v = none ∧
      ∀ t, (plain? v).bind Value.numberText? = some t → t = v := by
  have hv : v ≠ "" := by
    rintro rfl
    cases h
  unfold spelledText
  rw [read_of_plainLine h]
  obtain ⟨hnull, hplain⟩ | ⟨b, hbool, hplain⟩ | ⟨hnull, hbool, hplain⟩ := plain?_cases hv
  · simp [hnull, hplain, textOf?, Value.numberText?, hv.symm]
  · simp [hbool, hplain, textOf?, Value.numberText?, hv.symm]
  · rw [hnull, hbool]
    obtain hplain | hplain | ⟨w, t, hplain, hnumber⟩ := hplain
    · simp [hplain]
    · simp [hplain, textOf?, Value.numberText?]
    · simp [hplain, hnumber, textOf?_of_number hnumber]

/-! ### Loading -/

theorem loaded_credential (given : String)
    (honly : s.assignments.filter (fun a => (overridePath? a.1).isSome) =
      [(which.variableName, v)])
    (hfile : s.textAt (join (chooseDirectory given s) fileName) = none) :
    ∃ c, load given s = .ok c ∧ c.text which.setting = spelledText v := by
  have htree : fileTree given s = .ok (lowerKeys defaults) := by rw [fileTree, hfile]
  have hchanges : overrides s.assignments = [⟨which.keys, overrideValue v⟩] := by
    rw [overrides_eq_filter, honly, overrides, List.filterMap_cons, which.overridePath_variableName]
    rfl
  refine ⟨_, load_eq_ok.2 ⟨_, htree, rfl⟩, ?_⟩
  have hput := @Change.put_of_not_blocked (lowerKeys defaults) ⟨which.keys, overrideValue v⟩
    which.not_blocked_defaults
  have hvalue : (located given s (lowerKeys defaults)).value? which.setting.path =
      some (overrideValue v) := by
    rw [value?, located_root, hchanges, ← which.find?_keys]
    exact find?_put hput
  rw [text, hvalue, Option.bind_some, which.fallback_setting, textOf?_overrideValue]

/-- With no file and no other override, a credential is the text or the number that its variable
spells, the variable's own text if that is no document, and empty if it spells anything else. A
plain line is kept as it is exactly if it is no word for null or a truth value and any number that
it spells is written so. -/
theorem credential_is_what_is_spelled (given : String)
    (honly : s.assignments.filter (fun a => (overridePath? a.1).isSome) =
      [(which.variableName, v)])
    (hfile : s.textAt (join (chooseDirectory given s) fileName) = none) :
    ∃ c, load given s = .ok c ∧ c.text which.setting = spelledText v ∧
      (isPlainLine v.toList = true →
        (c.text which.setting = v ↔ isNullWord v = false ∧ boolWord? v = none ∧
          ∀ t, (plain? v).bind Value.numberText? = some t → t = v)) := by
  obtain ⟨c, hload, htext⟩ := loaded_credential given honly hfile
  exact ⟨c, hload, htext, fun hline => by rw [htext, spelledText_eq_self hline]⟩

def Credential.onlyVariable (which : Credential) (v : String) : Surroundings where
  assignments := [(which.variableName, v)]

theorem Credential.overrides_onlyVariable (which : Credential) (v : String) :
    (which.onlyVariable v).assignments.filter (fun a => (overridePath? a.1).isSome) =
      [(which.variableName, v)] :=
  List.filter_cons_of_pos (by rw [which.overridePath_variableName]; rfl)

theorem credential_is_what_is_spelled_phrase :
    ∃ c, load "" (Credential.password.onlyVariable "correct horse#1") = .ok c ∧
      c.text .password = "correct horse#1" := by
  obtain ⟨c, hload, -, hkept⟩ := credential_is_what_is_spelled ""
    (Credential.password.overrides_onlyVariable "correct horse#1") rfl
  refine ⟨c, hload, (hkept (by decide +kernel)).2 ⟨by decide +kernel, by decide +kernel, ?_⟩⟩
  have hplain : plain? "correct horse#1" = some (.text "correct horse#1") := by rfl
  rw [hplain]
  exact nofun

/-- A password that is a truth value is lost. -/
theorem truth_value_is_no_password :
    ¬ ∀ (given : String) (s : Surroundings) (which : Credential) (v : String),
      s.assignments.filter (fun a => (overridePath? a.1).isSome) = [(which.variableName, v)] →
        s.textAt (join (chooseDirectory given s) fileName) = none →
          ∃ c, load given s = .ok c ∧ c.text which.setting = v := by
  intro h
  have honly := Credential.password.overrides_onlyVariable "true"
  obtain ⟨c, hload, htext⟩ := h "" _ _ _ honly rfl
  obtain ⟨c', hload', hspelled⟩ := loaded_credential "" honly rfl
  obtain rfl : c = c' := Except.ok.inj (hload.symm.trans hload')
  have hlost : spelledText "true" = "" := by
    rw [spelledText, read_of_plainLine (by decide +kernel)]
    rfl
  rw [hspelled, hlost] at htext
  exact absurd htext (by decide)

end Simulcast.Config
