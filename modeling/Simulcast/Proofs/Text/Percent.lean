import Mathlib.Tactic.SplitIfs
import Simulcast.Text.Basic

/-!
# Percent-decoding gives the text back

A segment spells octets: a percent sign takes the two digits behind it along, and any other
character stands for its own octets. What is encoded spells the octets of the text, and is written
with nothing but unreserved characters and octets in upper-case digits. So no slash is part of it.
-/

namespace Simulcast.Text.Percent

/-- The octets that a segment spells. A percent sign without two digits stands for itself. -/
def spelled : List Char → List UInt8
  | '%' :: a :: b :: cs =>
    match hexValue? a, hexValue? b with
    | some high, some low => UInt8.ofNat (16 * high + low) :: spelled cs
    | _, _ => String.utf8EncodeChar '%' ++ spelled (a :: b :: cs)
  | c :: cs => String.utf8EncodeChar c ++ spelled cs
  | [] => []

def decode (s : String) : Option String := String.fromUTF8? (spelled s.toList).toByteArray

def isUpperHex (c : Char) : Bool := ('0' ≤ c && c ≤ '9') || ('A' ≤ c && c ≤ 'F')

/-- Unreserved characters, and octets written with a percent sign and two upper-case digits. -/
inductive IsSegment : List Char → Prop
  | nil : IsSegment []
  | unreserved {c : Char} {cs : List Char} (hc : isUnreserved c = true) (h : IsSegment cs) :
      IsSegment (c :: cs)
  | octet {a b : Char} {cs : List Char} (ha : isUpperHex a = true) (hb : isUpperHex b = true)
      (h : IsSegment cs) : IsSegment ('%' :: a :: b :: cs)

variable {c : Char} {cs : List Char} {n : Nat}

/-! ### Octets -/

theorem octets_lt (c : Char) : ∀ n ∈ octets c, n < 256 := by
  have hvalid : c.toNat < 0xd800 ∨ 0xdfff < c.toNat ∧ c.toNat < 0x110000 := c.valid
  unfold octets
  dsimp only
  split_ifs <;>
    simp only [List.mem_cons, List.not_mem_nil, or_false, forall_eq_or_imp, forall_eq] <;> omega

theorem octets_eq (c : Char) : (octets c).map UInt8.ofNat = String.utf8EncodeChar c := by
  have hvalid : c.toNat < 0xd800 ∨ 0xdfff < c.toNat ∧ c.toNat < 0x110000 := c.valid
  have hval : c.val.toNat = c.toNat := rfl
  unfold octets String.utf8EncodeChar
  simp only [hval]
  generalize c.toNat = n at hvalid
  split_ifs with h₁ h₁' h₂ h₂' h₃ h₃'
  any_goals omega
  · rfl
  · have hlead : 0xc0 + n / 64 = n / 64 % 0x20 + 0xc0 := by omega
    simp only [List.map_cons, List.map_nil, hlead, Nat.add_comm 0x80]
  · have hlead : 0xe0 + n / 4096 = n / 4096 % 0x10 + 0xe0 := by omega
    simp only [List.map_cons, List.map_nil, hlead, Nat.add_comm 0x80]
  · have hlead : 0xf0 + n / 262144 = n / 262144 % 8 + 0xf0 := by omega
    simp only [List.map_cons, List.map_nil, hlead, Nat.add_comm 0x80]

theorem hexValue?_digit (h : n < 16) : hexValue? (digit n) = some n := by
  revert n
  decide

theorem isUpperHex_digit (h : n < 16) : isUpperHex (digit n) = true := by
  revert n
  decide

theorem spelled_encodeOctet (h : n < 256) (cs : List Char) :
    spelled (encodeOctet n ++ cs) = UInt8.ofNat n :: spelled cs := by
  have hhigh : n / 16 < 16 := by omega
  have hlow : n % 16 < 16 := by omega
  change spelled ('%' :: digit (n / 16) :: digit (n % 16) :: cs) = _
  rw [spelled, hexValue?_digit hhigh, hexValue?_digit hlow]
  simp only [Nat.div_add_mod]

theorem spelled_encodeOctets {ns : List Nat} (h : ∀ n ∈ ns, n < 256) (cs : List Char) :
    spelled (ns.flatMap encodeOctet ++ cs) = ns.map UInt8.ofNat ++ spelled cs := by
  induction ns with
  | nil => rfl
  | cons n ns ih =>
    obtain ⟨hn, hrest⟩ := List.forall_mem_cons.1 h
    rw [List.flatMap_cons, List.append_assoc, spelled_encodeOctet hn, ih hrest]
    rfl

/-! ### Characters and texts -/

theorem spelled_unreserved (hc : isUnreserved c = true) (cs : List Char) :
    spelled (c :: cs) = String.utf8EncodeChar c ++ spelled cs := by
  have hpercent : c ≠ '%' := by
    rintro rfl
    cases hc
  rw [spelled.eq_def]
  split
  next h => exact (hpercent (List.cons.inj h).1).elim
  next h =>
    obtain ⟨rfl, rfl⟩ := List.cons.inj h
    rfl
  next h => cases h

theorem spelled_encodeChar (c : Char) (cs : List Char) :
    spelled (encodeChar c ++ cs) = String.utf8EncodeChar c ++ spelled cs := by
  unfold encodeChar
  split
  next hc => exact spelled_unreserved hc cs
  next => rw [spelled_encodeOctets (octets_lt c), octets_eq]

theorem spelled_encodeChars (cs : List Char) :
    spelled (encodeChars cs) = cs.flatMap String.utf8EncodeChar := by
  induction cs with
  | nil => rfl
  | cons c cs ih =>
    rw [encodeChars, List.flatMap_cons, spelled_encodeChar, List.flatMap_cons]
    exact congrArg _ ih

theorem decode_encode (s : String) : decode (encode s) = some s := by
  have hoctets : (spelled (encode s).toList).toByteArray = s.toByteArray := by
    rw [encode, String.toList_ofList, spelled_encodeChars]
    exact String.utf8Encode_toList
  rw [decode, hoctets, String.fromUTF8?, dif_pos s.isValidUTF8]
  rfl

theorem encode_injective : Function.Injective encode := by
  intro s t h
  have hdecode := decode_encode s
  rw [h, decode_encode] at hdecode
  exact (Option.some.inj hdecode).symm

theorem isSegment_encodeOctets {ns : List Nat} (h : ∀ n ∈ ns, n < 256) (hcs : IsSegment cs) :
    IsSegment (ns.flatMap encodeOctet ++ cs) := by
  induction ns with
  | nil => exact hcs
  | cons n ns ih =>
    obtain ⟨hn, hrest⟩ := List.forall_mem_cons.1 h
    rw [List.flatMap_cons, List.append_assoc]
    exact .octet (isUpperHex_digit (by omega)) (isUpperHex_digit (by omega)) (ih hrest)

theorem isSegment_encode (s : String) : IsSegment (encode s).toList := by
  rw [encode, String.toList_ofList]
  induction s.toList with
  | nil => exact .nil
  | cons c cs ih =>
    rw [encodeChars, List.flatMap_cons, encodeChar]
    split
    next hc => exact .unreserved hc ih
    next => exact isSegment_encodeOctets (octets_lt c) ih

theorem IsSegment.slash_notMem (h : IsSegment cs) : '/' ∉ cs := by
  have hne {p : Char → Bool} {c : Char} (hslash : p '/' = false) (hc : p c = true) : '/' ≠ c := by
    rintro rfl
    rw [hslash] at hc
    cases hc
  induction h with
  | nil => exact List.not_mem_nil
  | unreserved hc _ ih => exact List.not_mem_cons_of_ne_of_not_mem (hne rfl hc) ih
  | octet ha hb _ ih =>
    simp only [List.mem_cons, not_or]
    exact ⟨by decide, hne rfl ha, hne rfl hb, ih⟩

end Simulcast.Text.Percent
