import Simulcast.Text.Basic
import Simulcast.Text.CaseTable

/-!
# Letter case

`lowercase` follows the full Unicode rules: each character has its lower-case form, the dotted
capital I becomes two characters, and a capital sigma that ends a word becomes the final sigma.
ASCII case is a matter of its own and is all that a comparison of names ignores.
-/

namespace Simulcast.Text

def lowerAscii (c : Char) : Char :=
  if 'A' ≤ c ∧ c ≤ 'Z' then Char.ofNat (c.toNat + 32) else c

def sameIgnoringAsciiCase (s t : String) : Bool :=
  s.toList.map lowerAscii == t.toList.map lowerAscii

/-- The lower-case form of one character, where it does not depend on its neighbours. -/
def lowerChar (c : Char) : List Char :=
  if c.toNat < 128 then [lowerAscii c]
  else if c.toNat = 0x130 then ['i', Char.ofNat 0x307]
  else
    match lowercaseRuns.find? fun (first, last, step, _) =>
        first ≤ c.toNat && c.toNat ≤ last && (c.toNat - first) % step == 0 with
    | some (_, _, _, shift) => [Char.ofNat ((c.toNat : Int) + shift).toNat]
    | none => [c]

def isCased (c : Char) : Bool := inRanges casedRanges c

def isCaseIgnorable (c : Char) : Bool := inRanges caseIgnorableRanges c

/-- The next character that case rules do not look past is a cased one. -/
def meetsCased (cs : List Char) : Bool :=
  match cs.dropWhile isCaseIgnorable with
  | [] => false
  | c :: _ => isCased c

def capitalSigma : Char := 'Σ'

/-- `before` holds the characters already passed, nearest first. -/
def lowerAfter (before : List Char) : List Char → List Char
  | [] => []
  | c :: cs =>
    let lower :=
      if c = capitalSigma then
        if meetsCased before && !meetsCased cs then ['ς'] else ['σ']
      else lowerChar c
    lower ++ lowerAfter (c :: before) cs

def lowerChars (cs : List Char) : List Char := lowerAfter [] cs

def lowercase (s : String) : String := String.ofList (lowerChars s.toList)

end Simulcast.Text
