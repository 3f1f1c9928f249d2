/-!
# Places in a text and the tokens read there

A cursor is what is left of a text together with the line, the column and the index at which that
begins. Five characters break lines, and a carriage return counts as one break with the line feed
after it. A document consists of tokens once its characters have been read: indicators, the
beginning and end of collections, properties and scalars. Blocks that end without an indicator have
a token for it.
-/

namespace Simulcast.Yaml

inductive Token where
  | version (major minor : Nat)
  /-- A handle that stands for a prefix of tags. -/
  | handle (name start : String)
  | documentStart
  | documentEnd
  | blockSequenceStart
  | blockMappingStart
  | blockEnd
  | flowSequenceStart
  | flowSequenceEnd
  | flowMappingStart
  | flowMappingEnd
  | blockEntry
  | flowEntry
  | key
  | value
  | anchor (name : String)
  | alias (name : String)
  | tag (handle suffix : String)
  | scalar (text : String) (isPlain : Bool)
  deriving DecidableEq, Repr

def isBreak (c : Char) : Bool :=
  c == '\n' || c == '\r' || c.toNat == 0x85 || c.toNat == 0x2028 || c.toNat == 0x2029

def isGap (c : Char) : Bool := c == ' ' || c == '\t'

def isGapOrBreak (c : Char) : Bool := isGap c || isBreak c

def isWord (c : Char) : Bool := c.isAlphanum || c == '_' || c == '-'

def isAllowed (c : Char) : Bool :=
  let n := c.toNat
  n == 9 || n == 10 || n == 13 || (0x20 ≤ n && n ≤ 0x7e) || n == 0x85
    || (0xa0 ≤ n && n ≤ 0xfffd) || 0x10000 ≤ n

structure Cursor where
  rest : List Char
  line : Nat := 0
  column : Nat := 0
  index : Nat := 0

namespace Cursor

def next? (c : Cursor) : Option Char := c.rest.head?

def isAt (c : Cursor) (x : Char) : Bool := c.rest.head? == some x

def meets (c : Cursor) (p : Char → Bool) : Bool := (c.rest.head?.map p).getD false

/-- Whether the text ends or a gap or a break comes after `n` more characters. -/
def isClear (c : Cursor) (n : Nat) : Bool := (c.rest[n]?.map isGapOrBreak).getD true

def skip (c : Cursor) (n : Nat) : Cursor :=
  let n := min n c.rest.length
  { c with rest := c.rest.drop n, column := c.column + n, index := c.index + n }

def skipWhile (c : Cursor) (p : Char → Bool) : Cursor := c.skip (c.rest.takeWhile p).length

def taken (c : Cursor) (p : Char → Bool) : List Char := c.rest.takeWhile p

/-- Moves past a break to the next line, and gives what the break adds to a text. -/
def readBreak (c : Cursor) : List Char × Cursor :=
  let past (text : List Char) (n : Nat) : List Char × Cursor :=
    (text, { rest := c.rest.drop n, line := c.line + 1, column := 0, index := c.index + n })
  match c.rest with
  | '\r' :: '\n' :: _ => past ['\n'] 2
  | x :: _ =>
    if x.toNat = 0x2028 ∨ x.toNat = 0x2029 then past [x] 1
    else if isBreak x then past ['\n'] 1
    else ([], c)
  | [] => ([], c)

def skipBreak (c : Cursor) : Cursor := c.readBreak.2

/-- Whether a mark of three characters stands alone at the beginning of a line. -/
def isMark (c : Cursor) (x : Char) : Bool :=
  c.column == 0 && c.rest.take 3 == [x, x, x] && c.isClear 3

def isDocumentMark (c : Cursor) : Bool := c.isMark '-' || c.isMark '.'

end Cursor

end Simulcast.Yaml
