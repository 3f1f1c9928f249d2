import Simulcast.Yaml.Property
import Simulcast.Yaml.Scalar

/-!
# From characters to tokens

Blocks are delimited by columns: a block begins where an entry or a key stands further right than
the block around it, and ends where something stands further left. That something is a key only
shows at the colon behind it, so the scanner remembers for each flow level where a key might have
begun, and puts the tokens of the key there once it meets the colon. A key stays within its line
and is at most 1024 characters long.
-/

namespace Simulcast.Yaml

structure Candidate where
  /-- How many tokens come before it. -/
  position : Nat
  line : Nat
  column : Nat
  index : Nat
  /-- Whether nothing but a key can stand there. -/
  isRequired : Bool

structure Scanner where
  cursor : Cursor
  /-- The tokens so far, the last one first. -/
  tokens : List Token := []
  indents : List Nat := []
  /-- The candidate of each flow level, the innermost first; the last one is that of the blocks. -/
  candidates : List (Option Candidate) := [none]
  keyAllowed : Bool := true

namespace Scanner

def inFlow (s : Scanner) : Bool := 1 < s.candidates.length

/-- The first column at which the content of the innermost block may begin. -/
def floor (s : Scanner) : Nat := (s.indents.head?.map (· + 1)).getD 0

def push (s : Scanner) (t : Token) : Scanner := { s with tokens := t :: s.tokens }

def allowKey (s : Scanner) (keyAllowed : Bool) : Scanner := { s with keyAllowed }

def skip (s : Scanner) (n : Nat) : Scanner := { s with cursor := s.cursor.skip n }

/-! ### Blocks -/

def closeAll (s : Scanner) : Scanner :=
  if s.inFlow then s
  else
    { s with
      tokens := List.replicate s.indents.length .blockEnd ++ s.tokens
      indents := [] }

/-- Ends the blocks that lie further right than a column. -/
def closeBeyond (column : Nat) (s : Scanner) : Scanner :=
  if s.inFlow then s
  else
    let closed := s.indents.takeWhile (column < ·)
    { s with
      tokens := List.replicate closed.length .blockEnd ++ s.tokens
      indents := s.indents.drop closed.length }

def pushAt (position : Nat) (t : Token) (s : Scanner) : Scanner :=
  { s with tokens := s.tokens.insertIdx (s.tokens.length - position) t }

def openBlock (column position : Nat) (t : Token) (s : Scanner) : Scanner :=
  if s.inFlow || column < s.floor then s
  else { s.pushAt position t with indents := column :: s.indents }

def openHere (t : Token) (s : Scanner) : Scanner :=
  s.openBlock s.cursor.column s.tokens.length t

/-! ### Candidates for keys -/

def candidate? (s : Scanner) : Option Candidate := s.candidates.head?.join

def withCandidate (s : Scanner) (c : Option Candidate) : Scanner :=
  { s with candidates := c :: s.candidates.tail }

/-- Gives up the candidate of this level, which may not be a required one. -/
def dropCandidate (s : Scanner) : Option Scanner :=
  match s.candidate? with
  | some c => if c.isRequired then none else some (s.withCandidate none)
  | none => some s

/-- Makes this place a candidate if a key may stand here. -/
def saveCandidate (s : Scanner) : Option Scanner :=
  if s.keyAllowed then
    let candidate : Candidate :=
      { position := s.tokens.length, line := s.cursor.line, column := s.cursor.column
        index := s.cursor.index
        isRequired := !s.inFlow && s.indents.head? == some s.cursor.column }
    s.dropCandidate.map (·.withCandidate (some candidate))
  else some s

def longestKey : Nat := 1024

def isStale (cursor : Cursor) (c : Candidate) : Bool :=
  c.line < cursor.line || c.index + longestKey < cursor.index

/-- Gives up the candidates that have ended; none of them may be a required one. -/
def dropStale (s : Scanner) : Option Scanner :=
  let stale := s.candidates.filterMap fun c => c.filter (isStale s.cursor)
  if stale.any (·.isRequired) then none
  else some { s with candidates := s.candidates.map (Option.filter fun c => !isStale s.cursor c) }

/-! ### Gaps and comments -/

/-- Moves on to the next token. In a block a tab may not stand where a key may begin, and a key may
begin in every new line. -/
def toNextToken : Nat → Scanner → Scanner
  | 0, s => s
  | n + 1, s =>
    let tabs := s.inFlow || !s.keyAllowed
    let cursor := s.cursor.skipWhile fun x => x == ' ' || (tabs && x == '\t')
    let cursor := if cursor.isAt '#' then cursor.skipWhile fun x => !isBreak x else cursor
    if cursor.meets isBreak then
      toNextToken n { s with cursor := cursor.skipBreak, keyAllowed := s.keyAllowed || !s.inFlow }
    else { s with cursor }

/-! ### Tokens -/

def finish (s : Scanner) : Option (List Token) :=
  s.closeAll.dropCandidate.map fun s => s.tokens.reverse

def directive (s : Scanner) : Option Scanner :=
  match s.closeAll.dropCandidate, readDirective s.cursor with
  | some s, some (token, cursor) =>
    (skipToLineEnd cursor).map fun cursor =>
      { (s.push token).allowKey false with cursor := cursor.skipBreak }
  | _, _ => none

def documentMark (t : Token) (s : Scanner) : Option Scanner :=
  s.closeAll.dropCandidate.map fun s => ((s.push t).allowKey false).skip 3

def openFlow (t : Token) (s : Scanner) : Option Scanner :=
  s.saveCandidate.map fun s =>
    ({ (s.push t).allowKey true with candidates := none :: s.candidates }).skip 1

def closeFlow (t : Token) (s : Scanner) : Option Scanner :=
  s.dropCandidate.map fun s =>
    let candidates := if s.inFlow then s.candidates.tail else s.candidates
    ({ (s.push t).allowKey false with candidates }).skip 1

def flowEntry (s : Scanner) : Option Scanner :=
  s.dropCandidate.map fun s => ((s.push .flowEntry).allowKey true).skip 1

/-- The mark of an entry or a key in a block, which begins the block if it is the first. -/
def blockMark (start t : Token) (allowed : Bool) (s : Scanner) : Option Scanner :=
  if !s.inFlow && !s.keyAllowed then none
  else (s.openHere start).dropCandidate.map fun s => ((s.push t).allowKey allowed).skip 1

def blockEntry (s : Scanner) : Option Scanner := s.blockMark .blockSequenceStart .blockEntry true

def explicitKey (s : Scanner) : Option Scanner :=
  s.blockMark .blockMappingStart .key (!s.inFlow)

/-- A colon. A candidate in front of it turns out to be a key. -/
def value (s : Scanner) : Option Scanner :=
  match s.candidate? with
  | some c =>
    let s := (s.pushAt c.position .key).openBlock c.column c.position .blockMappingStart
    some ((((s.withCandidate none).push .value).allowKey false).skip 1)
  | none =>
    if !s.inFlow && !s.keyAllowed then none
    else some ((((s.openHere .blockMappingStart).push .value).allowKey (!s.inFlow)).skip 1)

def content (read : Cursor → Option (Token × Cursor)) (s : Scanner) : Option Scanner :=
  match s.saveCandidate, read s.cursor with
  | some s, some (token, cursor) => some { (s.push token).allowKey false with cursor }
  | _, _ => none

def anchor (make : String → Token) : Scanner → Option Scanner :=
  content fun c => (readName (c.skip 1)).map fun (name, c) => (make name, c)

def tag (s : Scanner) : Option Scanner := s.content (readTag s.inFlow)

def quoted (quote : Char) : Scanner → Option Scanner :=
  content fun c => (readQuoted quote c).map fun (text, c) => (.scalar text false, c)

def plain (s : Scanner) : Option Scanner :=
  match s.saveCandidate, readPlain s.inFlow s.floor s.cursor with
  | some s, some (text, isBroken, cursor) =>
    some { (s.push (.scalar text true)).allowKey isBroken with cursor }
  | _, _ => none

def block (s : Scanner) : Option Scanner :=
  match s.dropCandidate, readBlock s.floor s.cursor with
  | some s, some (text, cursor) =>
    some { (s.push (.scalar text false)).allowKey true with cursor }
  | _, _ => none

def isIndicator (c : Char) : Bool :=
  ['-', '?', ':', ',', '[', ']', '\x7b', '\x7d', '#', '&', '*', '!', '|', '>', '\'', '"', '%', '@',
   '\x60'].contains c

/-- Three of the indicators may begin a plain scalar if something follows them. -/
def beginsPlain (inFlow : Bool) (c : Cursor) : Bool :=
  c.meets (fun x => !isGapOrBreak x && !isIndicator x)
    || (c.isAt '-' && !(c.rest[1]?.map isGap).getD false)
    || (!inFlow && (c.isAt '?' || c.isAt ':') && !c.isClear 1)

def token (s : Scanner) : Option Scanner :=
  let c := s.cursor
  let marks := s.inFlow || c.isClear 1
  if c.column = 0 ∧ c.isAt '%' then s.directive
  else if c.isMark '-' then s.documentMark .documentStart
  else if c.isMark '.' then s.documentMark .documentEnd
  else if c.isAt '[' then s.openFlow .flowSequenceStart
  else if c.isAt '\x7b' then s.openFlow .flowMappingStart
  else if c.isAt ']' then s.closeFlow .flowSequenceEnd
  else if c.isAt '\x7d' then s.closeFlow .flowMappingEnd
  else if c.isAt ',' then s.flowEntry
  else if c.isAt '-' ∧ c.isClear 1 then s.blockEntry
  else if c.isAt '?' ∧ marks then s.explicitKey
  else if c.isAt ':' ∧ marks then s.value
  else if c.isAt '*' then s.anchor .alias
  else if c.isAt '&' then s.anchor .anchor
  else if c.isAt '!' then s.tag
  else if (c.isAt '|' ∨ c.isAt '>') ∧ ¬ s.inFlow then s.block
  else if c.isAt '\'' then s.quoted '\''
  else if c.isAt '"' then s.quoted '"'
  else if beginsPlain s.inFlow c then s.plain
  else none

def scan : Nat → Scanner → Option (List Token)
  | 0, _ => none
  | n + 1, s =>
    match (toNextToken (s.cursor.rest.length + 1) s).dropStale with
    | none => none
    | some s =>
      if s.cursor.rest.isEmpty then s.finish
      else ((s.closeBeyond s.cursor.column).token).bind (scan n)

end Scanner

def byteOrderMark : Char := Char.ofNat 0xfeff

/-- The tokens of a text; a byte order mark may stand in front. -/
def tokens? (cs : List Char) : Option (List Token) :=
  let cs := if cs.head? = some byteOrderMark then cs.tail else cs
  if cs.all isAllowed then Scanner.scan (cs.length + 1) { cursor := { rest := cs } } else none

end Simulcast.Yaml
