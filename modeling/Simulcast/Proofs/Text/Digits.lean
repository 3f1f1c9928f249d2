import Mathlib.Data.List.Basic

/-!
# Numbers in decimal digits

The digits of a number tell it, and nothing else than digits stands among them. So two numbers with
another character between them can both be told.
-/

namespace Simulcast

theorem digits_injective {m n : Nat} (h : toString m = toString n) : m = n := by
  have hdigits : Nat.toDigits 10 m = Nat.toDigits 10 n := by
    simpa only [Nat.toString_eq_repr, Nat.toList_repr] using congrArg String.toList h
  calc
    m = Nat.ofDigitChars 10 (Nat.toDigits 10 m) 0 :=
      (Nat.ofDigitChars_toDigits (by decide) (by decide)).symm
    _ = Nat.ofDigitChars 10 (Nat.toDigits 10 n) 0 := by rw [hdigits]
    _ = n := Nat.ofDigitChars_toDigits (by decide) (by decide)

theorem notMem_digits {c : Char} (hc : c.isDigit = false) (n : Nat) :
    c ∉ (toString n).toList := by
  rw [Nat.toString_eq_repr, Nat.toList_repr]
  intro h
  have hdigit := Nat.isDigit_of_mem_toDigits (by decide) (by decide) h
  rw [hc] at hdigit
  cases hdigit

theorem separated_injective {mark : String} {c : Char} (hmark : mark.toList = [c])
    (hc : c.isDigit = false) {m n m' n' : Nat}
    (h : toString m ++ mark ++ toString n = toString m' ++ mark ++ toString n') :
    m = m' ∧ n = n' := by
  have hlists := congrArg String.toList h
  simp only [String.toList_append, hmark, List.append_assoc, List.singleton_append] at hlists
  obtain ⟨hleft, -, hright⟩ :=
    (List.append_cons_inj_of_notMem (notMem_digits hc m) (notMem_digits hc n)).1 hlists
  exact ⟨digits_injective (String.toList_injective hleft),
    digits_injective (String.toList_injective hright)⟩

end Simulcast
