import Simulcast.Json.Basic
import Simulcast.Text.Basic

/-!
# Reading JSON

A text is read when all of it is one JSON value, with blanks around values and marks. Each reader
takes its part off the front of the text and gives the rest.
-/

namespace Simulcast.Json

def isSpace (c : Char) : Bool := c == ' ' || c == '\n' || c == '\t' || c == '\r'

def skipSpaces (cs : List Char) : List Char := cs.dropWhile isSpace

def unit? (a b c d : Char) : Option Nat :=
  if [a, b, c, d].all Text.isHexDigit then some (Text.hexNumber [a, b, c, d]) else none

def isHighSurrogate (n : Nat) : Bool := 0xd800 ≤ n && n < 0xdc00

def isLowSurrogate (n : Nat) : Bool := 0xdc00 ≤ n && n < 0xe000

def pairChar (high low : Nat) : Char :=
  Char.ofNat (0x10000 + (high - 0xd800) * 0x400 + (low - 0xdc00))

def shortEscape? (c : Char) : Option Char :=
  if c = '"' ∨ c = '\\' ∨ c = '/' then some c
  else if c = 'b' then some (Char.ofNat 8)
  else if c = 'f' then some (Char.ofNat 12)
  else if c = 'n' then some '\n'
  else if c = 'r' then some '\r'
  else if c = 't' then some '\t'
  else none

/-- A string after its opening quote, escapes and characters as numbers, and what follows the
closing quote. -/
def readUnits : List Char → Option (List Nat × List Char)
  | [] => none
  | '"' :: cs => some ([], cs)
  | '\\' :: 'u' :: a :: b :: c :: d :: cs =>
    match unit? a b c d with
    | none => none
    | some n => (readUnits cs).map fun r => (n :: r.1, r.2)
  | '\\' :: c :: cs =>
    match shortEscape? c with
    | none => none
    | some e => (readUnits cs).map fun r => (e.toNat :: r.1, r.2)
  | c :: cs =>
    if c.toNat < 32 ∨ c = '\\' then none
    else (readUnits cs).map fun r => (c.toNat :: r.1, r.2)

/-- The characters that units spell: surrogates have to come in pairs. -/
def pairUnits : List Nat → Option (List Char)
  | [] => some []
  | n :: ns =>
    if isHighSurrogate n then
      match ns with
      | m :: rest => if isLowSurrogate m then (pairUnits rest).map (pairChar n m :: ·) else none
      | [] => none
    else if isLowSurrogate n then none
    else (pairUnits ns).map (Char.ofNat n :: ·)

def readString (cs : List Char) : Option (Option String × List Char) :=
  (readUnits cs).map fun r => ((pairUnits r.1).map String.ofList, r.2)

/-- At least one digit, and as many as there are. -/
def readDigits (cs : List Char) : Option (List Char × List Char) :=
  let digits := cs.takeWhile Char.isDigit
  if digits.isEmpty then none else some (digits, cs.dropWhile Char.isDigit)

/-- Whole digits: a zero stands alone. -/
def readWhole : List Char → Option (List Char × List Char)
  | '0' :: cs =>
    match cs with
    | c :: _ => if c.isDigit then none else some (['0'], cs)
    | [] => some (['0'], [])
  | cs => readDigits cs

def readFraction : List Char → Option (List Char × List Char)
  | '.' :: cs => readDigits cs
  | cs => some ([], cs)

/-- The sign and the digits of an exponent, if there is one. -/
def readExponent : List Char → Option (Bool × List Char × List Char)
  | c :: cs =>
    if c = 'e' ∨ c = 'E' then
      match cs with
      | '-' :: ds => (readDigits ds).map fun r => (true, r.1, r.2)
      | '+' :: ds => (readDigits ds).map fun r => (false, r.1, r.2)
      | ds => (readDigits ds).map fun r => (false, r.1, r.2)
    else some (false, [], c :: cs)
  | [] => some (false, [], [])

def readNumeral (negative : Bool) (cs : List Char) : Option (Numeral × List Char) := do
  let (whole, cs) ← readWhole cs
  let (fraction, cs) ← readFraction cs
  let (exponentNegative, exponent, cs) ← readExponent cs
  some ({ negative, whole, fraction, exponentNegative, exponent }, cs)

def expect (word : List Char) (cs : List Char) : Option (List Char) :=
  if word.isPrefixOf cs then some (cs.drop word.length) else none

mutual

def readValue : Nat → List Char → Option (Json × List Char)
  | 0, _ => none
  | n + 1, cs =>
    match cs with
    | '"' :: cs => (readString cs).map fun r => (.string r.1, r.2)
    | '[' :: cs =>
      match skipSpaces cs with
      | ']' :: cs => some (.array [], cs)
      | cs => (readItems n cs).map fun r => (.array r.1, r.2)
    | '\x7b' :: cs =>
      match skipSpaces cs with
      | '\x7d' :: cs => some (.object [], cs)
      | cs => (readMembers n cs).map fun r => (.object r.1, r.2)
    | 'n' :: cs => (expect ['u', 'l', 'l'] cs).map fun r => (.null, r)
    | 't' :: cs => (expect ['r', 'u', 'e'] cs).map fun r => (.bool true, r)
    | 'f' :: cs => (expect ['a', 'l', 's', 'e'] cs).map fun r => (.bool false, r)
    | '-' :: cs => (readNumeral true cs).map fun r => (.number r.1, r.2)
    | cs => (readNumeral false cs).map fun r => (.number r.1, r.2)

def readItems : Nat → List Char → Option (List Json × List Char)
  | 0, _ => none
  | n + 1, cs =>
    match readValue n cs with
    | none => none
    | some (item, cs) =>
      match skipSpaces cs with
      | ',' :: cs => (readItems n (skipSpaces cs)).map fun r => (item :: r.1, r.2)
      | ']' :: cs => some ([item], cs)
      | _ => none

def readMembers : Nat → List Char → Option (List (Option String × Json) × List Char)
  | 0, _ => none
  | n + 1, cs =>
    match cs with
    | '"' :: cs =>
      match readString cs with
      | none => none
      | some (name, cs) =>
        match skipSpaces cs with
        | ':' :: cs =>
          match readValue n (skipSpaces cs) with
          | none => none
          | some (value, cs) =>
            match skipSpaces cs with
            | ',' :: cs =>
              (readMembers n (skipSpaces cs)).map fun r => ((name, value) :: r.1, r.2)
            | '\x7d' :: cs => some ([(name, value)], cs)
            | _ => none
        | _ => none
    | _ => none

end

def readAll (cs : List Char) : Option Json :=
  match readValue (2 * cs.length + 1) (skipSpaces cs) with
  | some (j, rest) => if (skipSpaces rest).isEmpty then some j else none
  | none => none

def read (s : String) : Option Json := readAll s.toList

def deepest : Nat := 127

mutual

/-- Every text has characters, every number has a value, and values nest at most `depth` deep. -/
def isSound (depth : Nat) : Json → Bool
  | .number n => n.word?.isSome || n.float?.isSome
  | .string s => s.isSome
  | .array items => 0 < depth && areSound (depth - 1) items
  | .object members => 0 < depth && areSoundMembers (depth - 1) members
  | _ => true

def areSound (depth : Nat) : List Json → Bool
  | [] => true
  | item :: items => isSound depth item && areSound depth items

def areSoundMembers (depth : Nat) : List (Option String × Json) → Bool
  | [] => true
  | (name, value) :: members =>
    name.isSome && isSound depth value && areSoundMembers depth members

end

/-- Reads a text all parts of which can be used. -/
def readSound (s : String) : Option Json :=
  (read s).bind fun j => if isSound deepest j then some j else none

end Simulcast.Json
