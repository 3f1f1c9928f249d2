import Mathlib.Data.List.Forall2
import Simulcast.Encoding
import Simulcast.Proofs.Names

/-!
# Options that tell the profile

The options of a profile are parts, one behind another. Each part is left out, or it begins with a
flag of its own and has a length of its own, and so a list of options comes apart in one way only.
The parts tell all of the profile but what makes no difference: one side of the frame without the
other, and the denominator of a rate that is not given or that it does not divide.
-/

namespace Simulcast.Encoding

variable {e e' : Encoding}

/-- The profile without what makes no difference. -/
def normalised (e : Encoding) : Encoding :=
  { e with
    width := if 0 < e.width ∧ 0 < e.height then e.width else 0
    height := if 0 < e.width ∧ 0 < e.height then e.height else 0
    fpsDen := if e.fpsNum = 0 then 0 else if e.fpsDen ≤ 1 then 1 else e.fpsDen }

/-! ### Taking options apart -/

section

variable {flag : String × Nat} {flags : List (String × Nat)} {part part' rest rest' : List String}
  {parts parts' : List (List String)}

/-- Nothing, or a part with this flag in front and of this length. -/
def IsPart (flag : String × Nat) (part : List String) : Prop :=
  part = [] ∨ part.head? = some flag.1 ∧ part.length = flag.2

theorem IsPart.append_inj (h : IsPart flag part) (h' : IsPart flag part')
    (hrest : rest.head? ≠ some flag.1) (hrest' : rest'.head? ≠ some flag.1)
    (heq : part ++ rest = part' ++ rest') : part = part' ∧ rest = rest' := by
  rcases h with rfl | ⟨hhead, hlength⟩ <;> rcases h' with rfl | ⟨hhead', hlength'⟩
  · exact ⟨rfl, heq⟩
  · refine (hrest ?_).elim
    rw [← List.nil_append rest, heq, List.head?_append, hhead', Option.some_or]
  · refine (hrest' ?_).elim
    rw [← List.nil_append rest', ← heq, List.head?_append, hhead, Option.some_or]
  · exact List.append_inj heq (hlength.trans hlength'.symm)

theorem head?_flatten_mem (h : List.Forall₂ IsPart flags parts) {first : String}
    (hfirst : parts.flatten.head? = some first) : first ∈ flags.map (·.1) := by
  induction h with
  | nil => cases hfirst
  | cons hpart _ ih =>
    rw [List.flatten_cons] at hfirst
    rw [List.map_cons, List.mem_cons]
    rcases hpart with rfl | ⟨hhead, -⟩
    · exact .inr (ih hfirst)
    · rw [List.head?_append, hhead, Option.some_or] at hfirst
      exact .inl (Option.some.inj hfirst).symm

theorem flatten_injective (hflags : (flags.map (·.1)).Nodup)
    (h : List.Forall₂ IsPart flags parts) (h' : List.Forall₂ IsPart flags parts')
    (heq : parts.flatten = parts'.flatten) : parts = parts' := by
  induction h generalizing parts' with
  | nil =>
    cases h'
    rfl
  | @cons flag part flags parts hpart hparts ih =>
    cases h' with
    | @cons _ part' _ parts' hpart' hparts' =>
      rw [List.map_cons, List.nodup_cons] at hflags
      obtain ⟨hnew, hflags⟩ := hflags
      obtain ⟨rfl, hrest⟩ := hpart.append_inj hpart'
        (fun hhead => hnew (head?_flatten_mem hparts hhead))
        (fun hhead => hnew (head?_flatten_mem hparts' hhead)) heq
      rw [ih hflags hparts' hrest]

end

def parts (e : Encoding) : List (List String) :=
  [e.sizeOptions, e.bitrateOptions, e.rateOptions, e.audioOptions, e.trackOptions,
   e.bandwidthOptions, e.latencyOptions]

def flags : List (String × Nat) :=
  [("-s", 2), ("-b:v", 2), ("-r", 2), ("-b:a", 2), ("-map", 2), ("-maxrate", 4), ("-tune", 2)]

theorem options_eq_flatten (e : Encoding) : e.options = e.parts.flatten := by
  simp [options, parts]

theorem isPart_ite {p : Prop} [Decidable p] {flag : String} {values : List String} {length : Nat}
    (hlength : values.length + 1 = length) :
    IsPart (flag, length) (if p then flag :: values else []) := by
  split
  · exact .inr ⟨rfl, hlength⟩
  · exact .inl rfl

theorem parts_areParts (e : Encoding) : List.Forall₂ IsPart flags e.parts :=
  .cons (isPart_ite rfl) <| .cons (isPart_ite rfl) <| .cons (isPart_ite rfl) <|
    .cons (isPart_ite rfl) <| .cons (isPart_ite rfl) <| .cons (isPart_ite rfl) <|
    .cons (isPart_ite rfl) .nil

/-! ### What each part tells -/

theorem kilo_injective {m n : Nat} (h : kilo m = kilo n) : m = n := by
  have hlists := congrArg String.toList h
  rw [kilo, kilo, String.toList_append, String.toList_append] at hlists
  exact digits_injective (String.toList_injective (List.append_cancel_right hlists))

theorem told_eq_iff {tell : Nat → List String} (hsome : ∀ n, tell n ≠ [])
    (hinj : ∀ {m n}, tell m = tell n → m = n) {m n : Nat} :
    (if 0 < m then tell m else []) = (if 0 < n then tell n else []) ↔ m = n := by
  refine ⟨fun h => ?_, fun h => h ▸ rfl⟩
  rcases Nat.eq_zero_or_pos m with rfl | hm <;> rcases Nat.eq_zero_or_pos n with rfl | hn
  · rfl
  · rw [if_pos hn] at h
    exact (hsome n h.symm).elim
  · rw [if_pos hm] at h
    exact (hsome m h).elim
  · rw [if_pos hm, if_pos hn] at h
    exact hinj h

theorem sizeOptions_eq_iff :
    e.sizeOptions = e'.sizeOptions ↔
      e.normalised.width = e'.normalised.width ∧ e.normalised.height = e'.normalised.height := by
  unfold sizeOptions normalised
  by_cases h : 0 < e.width ∧ 0 < e.height <;> by_cases h' : 0 < e'.width ∧ 0 < e'.height
  · simp only [if_pos h, if_pos h', List.cons.injEq, true_and, and_true]
    exact ⟨separated_injective rfl rfl, fun ⟨hw, hh⟩ => by rw [hw, hh]⟩
  · simp only [if_pos h, if_neg h', List.cons_ne_nil, false_iff]
    exact fun hsame => absurd hsame.1 (Nat.ne_of_gt h.1)
  · simp only [if_neg h, if_pos h', List.nil_eq, List.cons_ne_nil, false_iff]
    exact fun hsame => absurd hsame.1.symm (Nat.ne_of_gt h'.1)
  · simp only [if_neg h, if_neg h', and_self]

theorem bitrateOptions_eq_iff : e.bitrateOptions = e'.bitrateOptions ↔ e.bitrate = e'.bitrate :=
  told_eq_iff (fun _ => List.cons_ne_nil _ _) fun h =>
    kilo_injective (List.cons.inj (List.cons.inj h).2).1

theorem audioOptions_eq_iff :
    e.audioOptions = e'.audioOptions ↔ e.audioBitrate = e'.audioBitrate :=
  told_eq_iff (fun _ => List.cons_ne_nil _ _) fun h =>
    kilo_injective (List.cons.inj (List.cons.inj h).2).1

theorem trackOptions_eq_iff : e.trackOptions = e'.trackOptions ↔ e.audioTrack = e'.audioTrack :=
  told_eq_iff (fun _ => List.cons_ne_nil _ _) fun h =>
    numbered_injective "0:a:" (List.cons.inj (List.cons.inj h).2).1

/-- The buffer tells nothing that the greatest rate in front of it does not tell. -/
theorem bandwidthOptions_eq_iff :
    e.bandwidthOptions = e'.bandwidthOptions ↔ e.maxBandwidth = e'.maxBandwidth := by
  let tell (n : Nat) : List String :=
    ["-maxrate", kilo n, "-bufsize", kilo (min (2 * n) counterMax)]
  have hsome (n : Nat) : tell n ≠ [] := List.cons_ne_nil _ _
  exact told_eq_iff hsome fun h => kilo_injective (List.cons.inj (List.cons.inj h).2).1

theorem latencyOptions_eq_iff :
    e.latencyOptions = e'.latencyOptions ↔ e.lowLatency = e'.lowLatency := by
  unfold latencyOptions
  cases e.lowLatency <;> cases e'.lowLatency <;> simp

theorem rateText_ne (h : e.fpsDen ≤ 1) (h' : ¬ e'.fpsDen ≤ 1) : e.rateText ≠ e'.rateText := by
  rw [rateText, rateText, if_pos h, if_neg h']
  intro hsame
  have hslash : '/' ∈ (toString e'.fpsNum ++ "/" ++ toString e'.fpsDen).toList := by
    rw [String.toList_append, String.toList_append]
    exact List.mem_append_left _ (List.mem_append_right _ (List.mem_singleton.2 rfl))
  exact notMem_digits rfl e.fpsNum (hsame ▸ hslash)

theorem rateText_eq_iff :
    e.rateText = e'.rateText ↔ e.fpsNum = e'.fpsNum ∧
      (if e.fpsDen ≤ 1 then 1 else e.fpsDen) = if e'.fpsDen ≤ 1 then 1 else e'.fpsDen := by
  by_cases h : e.fpsDen ≤ 1 <;> by_cases h' : e'.fpsDen ≤ 1
  · rw [rateText, rateText, if_pos h, if_pos h', if_pos h, if_pos h']
    exact ⟨fun hsame => ⟨digits_injective hsame, rfl⟩, fun hsame => by rw [hsame.1]⟩
  · refine iff_of_false (rateText_ne h h') fun hsame => ?_
    rw [if_pos h, if_neg h'] at hsame
    omega
  · refine iff_of_false (rateText_ne h' h).symm fun hsame => ?_
    rw [if_neg h, if_pos h'] at hsame
    omega
  · rw [rateText, rateText, if_neg h, if_neg h', if_neg h, if_neg h']
    exact ⟨separated_injective rfl rfl, fun hsame => by rw [hsame.1, hsame.2]⟩

theorem rateOptions_eq_iff :
    e.rateOptions = e'.rateOptions ↔
      e.fpsNum = e'.fpsNum ∧ e.normalised.fpsDen = e'.normalised.fpsDen := by
  unfold rateOptions normalised
  dsimp only
  rcases Nat.eq_zero_or_pos e.fpsNum with h | h <;>
    rcases Nat.eq_zero_or_pos e'.fpsNum with h' | h'
  · simp [h, h']
  · simp [h, h', Nat.ne_of_lt h']
  · simp [h, h', Nat.ne_of_gt h]
  · rw [if_pos h, if_pos h', if_neg (Nat.ne_of_gt h), if_neg (Nat.ne_of_gt h'),
      ← rateText_eq_iff]
    simp

/-- The parts are the same when the profiles are, but for what makes no difference. -/
theorem parts_eq_iff : e.parts = e'.parts ↔ e.normalised = e'.normalised := by
  simp only [parts, List.cons.injEq, and_true, sizeOptions_eq_iff, bitrateOptions_eq_iff,
    rateOptions_eq_iff, audioOptions_eq_iff, trackOptions_eq_iff, bandwidthOptions_eq_iff,
    latencyOptions_eq_iff]
  unfold normalised
  simp only [Encoding.mk.injEq]
  tauto

theorem options_eq_iff : e.options = e'.options ↔ e.normalised = e'.normalised := by
  rw [← parts_eq_iff, options_eq_flatten, options_eq_flatten]
  refine ⟨flatten_injective (by decide) (parts_areParts e) (parts_areParts e'), fun h => ?_⟩
  rw [h]

/-- The options are the same exactly when the profiles are but for what makes no difference, and the
encoder is told nothing exactly when nothing in the profile makes a difference. -/
theorem options_tell_profile (e e' : Encoding) :
    (e.options = e'.options ↔ e.normalised = e'.normalised) ∧
      (e.options = [] ↔ e.normalised = {}) := by
  have hnone : ({} : Encoding).options = [] := rfl
  have hzero : ({} : Encoding).normalised = {} := rfl
  refine ⟨options_eq_iff, ?_⟩
  rw [← hnone, options_eq_iff, hzero]

end Simulcast.Encoding
