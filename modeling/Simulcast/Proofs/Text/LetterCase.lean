import Simulcast.Text.Case

/-!
# Lower case is final

Every character of a text in lower case is its own lower-case form, wherever it stands, so bringing
a text to lower case again changes nothing. Beyond ASCII this is a fact about the table: what the
members of a run become is a member of no run.
-/

namespace Simulcast.Text

variable {c d : Char} {before cs : List Char}

/-- First and last member, the step between members, and what leads to the lower-case letter. -/
abbrev CaseRun : Type := Nat × Nat × Nat × Int

namespace CaseRun

def first (run : CaseRun) : Nat := run.1

def last (run : CaseRun) : Nat := run.2.1

def step (run : CaseRun) : Nat := run.2.2.1

def shift (run : CaseRun) : Int := run.2.2.2

def HasMember (run : CaseRun) (n : Nat) : Prop :=
  run.first ≤ n ∧ n ≤ run.last ∧ (n - run.first) % run.step = 0

def image (run : CaseRun) (n : Nat) : Nat := (n + run.shift).toNat

/-- Nothing that the members of a run become is a member of the other: it is past it, or between
its members, which are every other number. -/
def leadsPast (run other : CaseRun) : Bool :=
  Nat.blt (run.image run.last) other.first || Nat.blt other.last (run.image run.first) ||
    ((Nat.beq run.first run.last || Nat.beq run.step 2) && Nat.beq other.step 2 &&
      Nat.beq ((run.image run.first + other.first) % 2) 1)

/-- What the members of a run become is no capital letter of ASCII and not the dotted capital I. -/
def isBounded (run : CaseRun) : Bool :=
  Nat.blt 90 (run.image run.first) &&
    (Nat.blt (run.image run.last) 0x130 || Nat.blt 0x130 (run.image run.first))

theorem runs_leadPast :
    (lowercaseRuns.all fun run => lowercaseRuns.all (leadsPast run)) = true := by
  decide +kernel

theorem runs_isBounded : lowercaseRuns.all isBounded = true := by decide +kernel

variable {run other : CaseRun} {n : Nat}

theorem not_hasMember_image (hpast : run.leadsPast other = true) (hbounded : run.isBounded = true)
    (hn : run.HasMember n) : ¬ other.HasMember (run.image n) := by
  simp only [leadsPast, isBounded, HasMember, image, Bool.or_eq_true, Bool.and_eq_true,
    Nat.blt_eq, Nat.beq_eq] at *
  rintro ⟨hfirst, hlast, hstep⟩
  rcases hpast with (h | h) | ⟨⟨h | h, hother⟩, hodd⟩
  · omega
  · omega
  · rw [hother] at hstep
    omega
  · rw [hother] at hstep
    rw [h] at hn
    omega

theorem image_bounds (hbounded : run.isBounded = true) (hn : run.HasMember n) :
    90 < run.image n ∧ run.image n ≠ 0x130 := by
  simp only [isBounded, HasMember, image, Bool.or_eq_true, Bool.and_eq_true, Nat.blt_eq] at *
  omega

end CaseRun

/-! ### Characters -/

def Settled (c : Char) : Prop := lowerChar c = [c]

instance (c : Char) : Decidable (Settled c) := inferInstanceAs (Decidable (_ = _))

theorem Settled.ne_capitalSigma (h : Settled c) : c ≠ capitalSigma := by
  rintro rfl
  exact absurd h (by decide +kernel)

theorem lowerAscii_settled (h : c.toNat < 128) : Settled (lowerAscii c) := by
  have hall : ∀ n < 128, Settled (lowerAscii (Char.ofNat n)) := by decide +kernel
  have hc := hall c.toNat h
  rwa [Char.ofNat_toNat] at hc

/-- Beyond ASCII, apart from the dotted capital I, what is a member of no run is settled. -/
theorem settled_of_no_run (hascii : 128 ≤ c.toNat) (hdotted : c.toNat ≠ 0x130)
    (hrun : ∀ run ∈ lowercaseRuns, ¬ CaseRun.HasMember run c.toNat) : Settled c := by
  have hfind : lowercaseRuns.find? (fun run => run.1 ≤ c.toNat && c.toNat ≤ run.2.1 &&
      (c.toNat - run.1) % run.2.2.1 == 0) = none := by
    rw [List.find?_eq_none]
    intro run hmem hfound
    simp only [Bool.and_eq_true, decide_eq_true_eq, beq_iff_eq] at hfound
    exact hrun run hmem ⟨hfound.1.1, hfound.1.2, hfound.2⟩
  unfold Settled lowerChar
  rw [if_neg (by omega), if_neg hdotted]
  simp only [hfind]

theorem lowerAscii_of_lt (h : 90 < c.toNat) : lowerAscii c = c := by
  refine if_neg ?_
  rintro ⟨-, hle⟩
  exact absurd (UInt32.le_iff_toNat_le.1 (Char.le_def.1 hle)) (Nat.not_le.2 h)

theorem image_settled {run : CaseRun} {n : Nat} (hmem : run ∈ lowercaseRuns)
    (hn : run.HasMember n) : Settled (Char.ofNat (run.image n)) := by
  have hbounded : run.isBounded = true := List.all_eq_true.1 CaseRun.runs_isBounded run hmem
  have hpast : ∀ other ∈ lowercaseRuns, run.leadsPast other = true :=
    List.all_eq_true.1 (List.all_eq_true.1 CaseRun.runs_leadPast run hmem)
  obtain ⟨hcapital, hdotted⟩ := CaseRun.image_bounds hbounded hn
  by_cases hvalid : (run.image n).isValidChar
  · have htoNat : (Char.ofNat (run.image n)).toNat = run.image n := by
      rw [Char.ofNat, dif_pos hvalid]
      rfl
    rw [← htoNat] at hcapital hdotted
    by_cases hascii : (Char.ofNat (run.image n)).toNat < 128
    · unfold Settled lowerChar
      rw [if_pos hascii, lowerAscii_of_lt hcapital]
    · refine settled_of_no_run (Nat.not_lt.1 hascii) hdotted fun other hother => ?_
      rw [htoNat]
      exact CaseRun.not_hasMember_image (hpast other hother) hbounded hn
  · have hnull : Char.ofNat (run.image n) = Char.ofNat 0 := by
      unfold Char.ofNat
      rw [dif_neg hvalid]
      rfl
    rw [hnull]
    decide +kernel

theorem lowerChar_settled (hd : d ∈ lowerChar c) : Settled d := by
  unfold lowerChar at hd
  split at hd
  next hascii =>
    obtain rfl := List.mem_singleton.1 hd
    exact lowerAscii_settled hascii
  next hascii =>
    split at hd
    next =>
      have hparts : Settled 'i' ∧ Settled (Char.ofNat 0x307) := by decide +kernel
      obtain rfl | rfl : d = 'i' ∨ d = Char.ofNat 0x307 := by simpa using hd
      · exact hparts.1
      · exact hparts.2
    next hdotted =>
      split at hd
      next first last step shift hfind =>
        obtain rfl := List.mem_singleton.1 hd
        have hmember := List.find?_some hfind
        simp only [Bool.and_eq_true, decide_eq_true_eq, beq_iff_eq] at hmember
        have hn : CaseRun.HasMember (first, last, step, shift) c.toNat :=
          ⟨hmember.1.1, hmember.1.2, hmember.2⟩
        have hd := image_settled (List.mem_of_find?_eq_some hfind) hn
        exact hd
      next hfind =>
        obtain rfl := List.mem_singleton.1 hd
        refine settled_of_no_run (Nat.not_lt.1 hascii) hdotted fun run hmem hn => ?_
        have hnone := List.find?_eq_none.1 hfind run hmem
        simp only [Bool.and_eq_true, decide_eq_true_eq, beq_iff_eq] at hnone
        exact hnone ⟨⟨hn.1, hn.2.1⟩, hn.2.2⟩

/-! ### Texts -/

theorem lowerAfter_settled (hd : d ∈ lowerAfter before cs) : Settled d := by
  induction cs generalizing before with
  | nil => cases hd
  | cons c cs ih =>
    rw [lowerAfter] at hd
    obtain hd | hd := List.mem_append.1 hd
    · have hsigmas : Settled 'ς' ∧ Settled 'σ' := by decide +kernel
      split at hd
      next =>
        split at hd <;> obtain rfl := List.mem_singleton.1 hd
        · exact hsigmas.1
        · exact hsigmas.2
      next => exact lowerChar_settled hd
    · exact ih hd

theorem lowerAfter_of_settled (h : ∀ c ∈ cs, Settled c) : lowerAfter before cs = cs := by
  induction cs generalizing before with
  | nil => rfl
  | cons c cs ih =>
    obtain ⟨hc, hcs⟩ := List.forall_mem_cons.1 h
    rw [lowerAfter, if_neg hc.ne_capitalSigma, hc, ih hcs]
    rfl

@[simp] theorem lowercase_lowercase (s : String) : lowercase (lowercase s) = lowercase s := by
  unfold lowercase
  rw [String.toList_ofList, lowerChars, lowerChars]
  exact congrArg String.ofList (lowerAfter_of_settled fun _ hc => lowerAfter_settled hc)

end Simulcast.Text
