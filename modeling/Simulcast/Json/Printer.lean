import Simulcast.Json.Basic
import Simulcast.Text.Quoted

/-!
# JSON text

Compact text: no blanks, members in the order of the value. A quote, a backslash and the usual
controls have short escapes, other characters below the blank are written by number, and all else
stands for itself.
-/

namespace Simulcast.Json

def escapeChar (c : Char) : List Char :=
  if c = '"' then ['\\', '"']
  else if c = '\\' then ['\\', '\\']
  else if c = '\n' then ['\\', 'n']
  else if c = '\t' then ['\\', 't']
  else if c = '\r' then ['\\', 'r']
  else if c.toNat = 8 then ['\\', 'b']
  else if c.toNat = 12 then ['\\', 'f']
  else if c.toNat < 16 then ['\\', 'u', '0', '0', '0'] ++ Text.hexDigits c.toNat
  else if c.toNat < 32 then ['\\', 'u', '0', '0'] ++ Text.hexDigits c.toNat
  else [c]

def printText (s : String) : List Char := '"' :: s.toList.flatMap escapeChar ++ ['"']

/-- The escape of a lone surrogate, which is how an unreadable text can be written. -/
def unreadable : List Char := ['"', '\\', 'u', 'd', '8', '0', '0', '"']

def printString : Option String → List Char
  | some s => printText s
  | none => unreadable

def printNumeral (n : Numeral) : List Char :=
  (if n.negative then ['-'] else []) ++ n.whole
    ++ (if n.fraction.isEmpty then [] else '.' :: n.fraction)
    ++ (if n.exponent.isEmpty then []
        else 'e' :: (if n.exponentNegative then ['-'] else []) ++ n.exponent)

mutual

def print : Json → List Char
  | .null => ['n', 'u', 'l', 'l']
  | .bool true => ['t', 'r', 'u', 'e']
  | .bool false => ['f', 'a', 'l', 's', 'e']
  | .number n => printNumeral n
  | .string s => printString s
  | .array [] => ['[', ']']
  | .array (item :: items) => '[' :: print item ++ printItems items
  | .object [] => ['\x7b', '\x7d']
  | .object ((name, value) :: members) =>
    '\x7b' :: printString name ++ ':' :: print value ++ printMembers members

def printItems : List Json → List Char
  | [] => [']']
  | item :: items => ',' :: print item ++ printItems items

def printMembers : List (Option String × Json) → List Char
  | [] => ['\x7d']
  | (name, value) :: members =>
    ',' :: printString name ++ ':' :: print value ++ printMembers members

end

def compact (j : Json) : String := String.ofList (print j)

end Simulcast.Json
