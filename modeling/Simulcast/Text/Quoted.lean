import Simulcast.Text.Basic
import Simulcast.Text.PrintableTable

/-!
# Texts in quotes, as a report shows them

A quote and a backslash stand behind a backslash, the usual controls have letters, and any other
character that cannot be seen is given by its number. The same notation writes options, lists and
records on one line.
-/

namespace Simulcast.Text

def isPrintable (c : Char) : Bool :=
  if c.toNat < 128 then 32 ≤ c.toNat && c.toNat != 127
  else !inRanges unprintableRanges c

def quoteChar (c : Char) : List Char :=
  if c = '"' then ['\\', '"']
  else if c = '\\' then ['\\', '\\']
  else if c = '\n' then ['\\', 'n']
  else if c = '\t' then ['\\', 't']
  else if c = '\r' then ['\\', 'r']
  else if c.toNat = 0 then ['\\', '0']
  else if isPrintable c then [c]
  else ['\\', 'u', '\x7b'] ++ hexDigits c.toNat ++ ['\x7d']

def quoted (s : String) : String :=
  String.ofList ('"' :: s.toList.flatMap quoteChar ++ ['"'])

def redacted : String := quoted "<redacted>"

def shownOption (show? : α → String) : Option α → String
  | none => "None"
  | some a => "Some(" ++ show? a ++ ")"

def shownList (show? : α → String) (xs : List α) : String :=
  "[" ++ ", ".intercalate (xs.map show?) ++ "]"

def shownBool (b : Bool) : String := if b then "true" else "false"

def shownRecord (name : String) (fields : List (String × String)) : String :=
  name ++ " \x7b " ++ ", ".intercalate (fields.map fun f => f.1 ++ ": " ++ f.2) ++ " \x7d"

end Simulcast.Text
