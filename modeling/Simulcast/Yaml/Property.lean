import Simulcast.Text.Basic
import Simulcast.Yaml.Token

/-!
# Anchors, tags and directives

An anchor has a name of word characters. A tag is a handle and a suffix, or a whole tag between
angle brackets; a suffix may spell characters by their octets. A directive is a line of its own
before a document.
-/

namespace Simulcast.Yaml

/-- The characters that may follow a name directly. -/
def endsName (c : Cursor) : Bool :=
  c.isClear 0 || c.meets ['?', ':', ',', ']', '\x7d', '%', '@', '\x60'].contains

def readName (c : Cursor) : Option (String × Cursor) :=
  let name := c.taken isWord
  let c := c.skip name.length
  if name.isEmpty || !endsName c then none else some (String.ofList name, c)

/-! ### Tags -/

def isUriChar (c : Char) : Bool :=
  isWord c
    || [';', '/', '?', ':', '@', '&', '=', '+', '$', '.', '%', '!', '~', '*', '\'', '(',
      ')'].contains c

/-- Flow indicators can be part of a tag between angle brackets. -/
def isVerbatimChar (c : Char) : Bool := isUriChar c || [',', '[', ']'].contains c

def escapedOctet? : List Char → Option (Nat × List Char)
  | '%' :: a :: b :: rest =>
    if Text.isHexDigit a ∧ Text.isHexDigit b then some (Text.hexNumber [a, b], rest) else none
  | _ => none

/-- How many octets continue a character that begins with this one, and the bits it gives. -/
def leadOctet? (n : Nat) : Option (Nat × Nat) :=
  if n < 0x80 then some (0, n)
  else if 0xc0 ≤ n ∧ n < 0xe0 then some (1, n - 0xc0)
  else if 0xe0 ≤ n ∧ n < 0xf0 then some (2, n - 0xe0)
  else if 0xf0 ≤ n ∧ n < 0xf8 then some (3, n - 0xf0)
  else none

def continuation? : Nat → Nat → List Char → Option (Nat × List Char)
  | 0, bits, cs => some (bits, cs)
  | n + 1, bits, cs =>
    match escapedOctet? cs with
    | some (octet, rest) =>
      if 0x80 ≤ octet ∧ octet < 0xc0 then continuation? n (64 * bits + (octet - 0x80)) rest
      else none
    | none => none

def escapedChar? (cs : List Char) : Option (Char × List Char) :=
  match escapedOctet? cs with
  | none => none
  | some (octet, rest) =>
    match leadOctet? octet with
    | none => none
    | some (more, bits) =>
      (continuation? more bits rest).map fun (n, rest) => (Char.ofNat n, rest)

/-- The characters of a tag, with escapes resolved. -/
def uriChars (isPart : Char → Bool) : Nat → List Char → Option (List Char × List Char)
  | 0, _ => none
  | n + 1, cs =>
    match cs with
    | [] => some ([], [])
    | '%' :: _ =>
      match escapedChar? cs with
      | none => none
      | some (x, rest) => (uriChars isPart n rest).map fun (xs, rest) => (x :: xs, rest)
    | x :: rest =>
      if isPart x then (uriChars isPart n rest).map fun (xs, rest) => (x :: xs, rest)
      else some ([], cs)

/-- The rest of a tag, which may be empty if the tag has begun already. -/
def readUri (isPart : Char → Bool) (mayBeEmpty : Bool) (c : Cursor) :
    Option (List Char × Cursor) :=
  match uriChars isPart (c.rest.length + 1) c.rest with
  | none => none
  | some (uri, rest) =>
    if uri.isEmpty && !mayBeEmpty then none
    else some (uri, c.skip (c.rest.length - rest.length))

def readVerbatimTag (c : Cursor) : Option (Token × Cursor) :=
  match readUri isVerbatimChar false (c.skip 2) with
  | none => none
  | some (uri, c) =>
    if c.isAt '>' then some (.tag "" (String.ofList uri), c.skip 1) else none

/-- A tag that begins with a handle. A word after the first mark is the suffix of the short handle
unless another mark ends it; the mark alone is a tag without a handle. -/
def readHandleTag (c : Cursor) : Option (Token × Cursor) :=
  let word := (c.skip 1).taken isWord
  let behind := c.skip (word.length + 1)
  if behind.isAt '!' then
    (readUri isUriChar false (behind.skip 1)).map fun (uri, c) =>
      (.tag (String.ofList ('!' :: word ++ ['!'])) (String.ofList uri), c)
  else
    (readUri isUriChar true behind).map fun (uri, c) =>
      match word ++ uri with
      | [] => (.tag "" "!", c)
      | suffix => (.tag "!" (String.ofList suffix), c)

def readTag (inFlow : Bool) (c : Cursor) : Option (Token × Cursor) :=
  let tag := if c.rest[1]? = some '<' then readVerbatimTag c else readHandleTag c
  tag.filter fun (_, c) => c.isClear 0 || (inFlow && c.isAt ',')

/-! ### Directives -/

def versionDigits : Nat := 9

def readVersionNumber (c : Cursor) : Option (Nat × Cursor) :=
  let digits := c.taken Char.isDigit
  if digits.isEmpty ∨ versionDigits < digits.length then none
  else some (digits.foldl (fun n d => 10 * n + (d.toNat - 48)) 0, c.skip digits.length)

def readVersion (c : Cursor) : Option (Token × Cursor) :=
  match readVersionNumber c with
  | none => none
  | some (major, c) =>
    if c.isAt '.' then
      (readVersionNumber (c.skip 1)).map fun (minor, c) => (.version major minor, c)
    else none

/-- The handle of a directive: a mark alone, or a word between two. -/
def readHandle (c : Cursor) : Option (String × Cursor) :=
  if c.isAt '!' then
    let word := (c.skip 1).taken isWord
    let behind := c.skip (word.length + 1)
    if behind.isAt '!' then some (String.ofList ('!' :: word ++ ['!']), behind.skip 1)
    else if word.isEmpty then some ("!", behind)
    else none
  else none

def readHandleDirective (c : Cursor) : Option (Token × Cursor) :=
  match readHandle c with
  | none => none
  | some (name, c) =>
    if c.meets isGap then
      match readUri isVerbatimChar false (c.skipWhile isGap) with
      | none => none
      | some (start, c) =>
        if c.isClear 0 then some (.handle name (String.ofList start), c) else none
    else none

/-- A directive from its percent sign to the end of the line. -/
def readDirective (c : Cursor) : Option (Token × Cursor) :=
  let c := c.skip 1
  let name := String.ofList (c.taken isWord)
  let c := c.skip name.length
  if c.isClear 0 then
    let value := c.skipWhile isGap
    if name = "YAML" then readVersion value
    else if name = "TAG" then readHandleDirective value
    else none
  else none

end Simulcast.Yaml
