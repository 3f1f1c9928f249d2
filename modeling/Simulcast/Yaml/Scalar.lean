import Simulcast.Text.Basic
import Simulcast.Yaml.Token

/-!
# Reading scalars

Line breaks inside plain and quoted scalars are folded: a single one becomes a space, and of
several the first is dropped. A block scalar takes its lines from a column of its own; it keeps
their breaks or folds them between lines that begin with a character.
-/

namespace Simulcast.Yaml

/-! ### Gaps -/

/-- What stands between two words of a scalar: spaces, or breaks with spaces around them. -/
structure Gap where
  spaces : List Char := []
  isBroken : Bool := false
  firstBreak : List Char := []
  otherBreaks : List Char := []

namespace Gap

def text (g : Gap) : List Char :=
  if g.isBroken then
    if g.firstBreak = ['\n'] then if g.otherBreaks.isEmpty then [' '] else g.otherBreaks
    else g.firstBreak ++ g.otherBreaks
  else g.spaces

def withBreak (g : Gap) (breakText : List Char) : Gap :=
  if g.isBroken then { g with otherBreaks := g.otherBreaks ++ breakText }
  else { isBroken := true, firstBreak := breakText }

def withSpace (g : Gap) (x : Char) : Gap :=
  if g.isBroken then g else { g with spaces := g.spaces ++ [x] }

/-- Reads on to the next word. No tab may stand before the column `floor` of a new line. -/
def read (floor : Nat) : Nat → Gap → Cursor → Option (Gap × Cursor)
  | 0, _, _ => none
  | n + 1, g, c =>
    match c.rest with
    | [] => some (g, c)
    | x :: _ =>
      if isGap x then
        if g.isBroken ∧ x = '\t' ∧ c.column < floor then none
        else read floor n (g.withSpace x) (c.skip 1)
      else if isBreak x then read floor n (g.withBreak c.readBreak.1) c.skipBreak
      else some (g, c)

end Gap

/-! ### Quoted scalars -/

def letterEscape? (c : Char) : Option Char :=
  if c = '0' then some (Char.ofNat 0)
  else if c = 'a' then some (Char.ofNat 7)
  else if c = 'b' then some (Char.ofNat 8)
  else if c = 't' ∨ c = '\t' then some '\t'
  else if c = 'n' then some '\n'
  else if c = 'v' then some (Char.ofNat 11)
  else if c = 'f' then some (Char.ofNat 12)
  else if c = 'r' then some '\r'
  else if c = 'e' then some (Char.ofNat 27)
  else if c = ' ' ∨ c = '"' ∨ c = '/' ∨ c = '\\' then some c
  else if c = 'N' then some (Char.ofNat 0x85)
  else if c = '_' then some (Char.ofNat 0xa0)
  else if c = 'L' then some (Char.ofNat 0x2028)
  else if c = 'P' then some (Char.ofNat 0x2029)
  else none

/-- How many digits follow the letter of an escape by number. -/
def escapeLength? (c : Char) : Option Nat :=
  if c = 'x' then some 2 else if c = 'u' then some 4 else if c = 'U' then some 8 else none

def numberEscape? (length : Nat) (cs : List Char) : Option Char :=
  let digits := cs.take length
  if digits.length = length ∧ digits.all Text.isHexDigit then
    let n := Text.hexNumber digits
    if n.isValidChar then some (Char.ofNat n) else none
  else none

/-- The character of an escape after its backslash, and the length of the escape. -/
def escape? : List Char → Option (Char × Nat)
  | [] => none
  | c :: cs =>
    match letterEscape? c, escapeLength? c with
    | some x, _ => some (x, 1)
    | none, some length => (numberEscape? length cs).map fun x => (x, length + 1)
    | none, none => none

def doubleQuotedWord : Nat → Cursor → Option (List Char × Bool × Cursor)
  | 0, _ => none
  | n + 1, c =>
    match c.rest with
    | [] => some ([], false, c)
    | '\\' :: rest =>
      if (rest.head?.map isBreak).getD false then some ([], true, (c.skip 1).skipBreak)
      else
        match escape? rest with
        | none => none
        | some (x, length) =>
          (doubleQuotedWord n (c.skip (length + 1))).map fun (word, r) => (x :: word, r)
    | x :: _ =>
      if x = '"' ∨ isGapOrBreak x then some ([], false, c)
      else (doubleQuotedWord n (c.skip 1)).map fun (word, r) => (x :: word, r)

/-- A word between single quotes, in which two quotes stand for one. -/
def singleQuotedWord : Nat → Cursor → Option (List Char × Bool × Cursor)
  | 0, _ => none
  | n + 1, c =>
    match c.rest with
    | [] => some ([], false, c)
    | '\'' :: '\'' :: _ =>
      (singleQuotedWord n (c.skip 2)).map fun (word, r) => ('\'' :: word, r)
    | x :: _ =>
      if x = '\'' ∨ isGapOrBreak x then some ([], false, c)
      else (singleQuotedWord n (c.skip 1)).map fun (word, r) => (x :: word, r)

def quotedWord (quote : Char) (n : Nat) (c : Cursor) : Option (List Char × Bool × Cursor) :=
  if quote = '"' then doubleQuotedWord n c else singleQuotedWord n c

def quotedWords (quote : Char) : Nat → Cursor → Option (List Char × Cursor)
  | 0, _ => none
  | n + 1, c =>
    if c.isDocumentMark then none
    else
      match quotedWord quote (c.rest.length + 1) c with
      | none => none
      | some (word, isBroken, c) =>
        if c.isAt quote then some (word, c.skip 1)
        else if c.rest.isEmpty then none
        else
          match Gap.read 0 (c.rest.length + 1) { isBroken } c with
          | none => none
          | some (gap, c) =>
            (quotedWords quote n c).map fun (words, c) => (word ++ gap.text ++ words, c)

def readQuoted (quote : Char) (c : Cursor) : Option (String × Cursor) :=
  (quotedWords quote (c.rest.length + 1) (c.skip 1)).map fun (text, c) => (String.ofList text, c)

/-! ### Plain scalars -/

def isFlowIndicator (c : Char) : Bool := [',', '[', ']', '\x7b', '\x7d'].contains c

/-- Whether a colon stands directly in front of an indicator of a flow collection. -/
def isRefused (inFlow : Bool) (x : Char) (rest : List Char) : Bool :=
  inFlow && x == ':' && (rest.head?.map fun y => isFlowIndicator y || y == '?').getD false

/-- Whether a plain scalar ends before `x`. -/
def endsPlain (inFlow : Bool) (x : Char) (rest : List Char) : Bool :=
  isGapOrBreak x || (x == ':' && (rest.head?.map isGapOrBreak).getD true)
    || (inFlow && isFlowIndicator x)

/-- A word of a plain scalar. It ends before a colon with nothing behind it, and inside a flow
collection before an indicator, where a colon directly in front of one is refused. -/
def plainWord (inFlow : Bool) : List Char → Option (List Char)
  | [] => some []
  | x :: rest =>
    if isRefused inFlow x rest then none
    else if endsPlain inFlow x rest then some []
    else (plainWord inFlow rest).map (x :: ·)

/-- The words of a plain scalar after the gap before them, and whether a break follows. Outside of
flow collections the lines have to reach the column `floor`. -/
def plainWords (inFlow : Bool) (floor : Nat) :
    Nat → Gap → Cursor → Option (List Char × Bool × Cursor)
  | 0, _, _ => none
  | n + 1, gap, c =>
    if c.isDocumentMark || c.isAt '#' then some ([], gap.isBroken, c)
    else
      match plainWord inFlow c.rest with
      | none => none
      | some [] => some ([], gap.isBroken, c)
      | some (x :: word) =>
        let start := gap.text ++ x :: word
        let c := c.skip (word.length + 1)
        match Gap.read floor (c.rest.length + 1) {} c with
        | none => none
        | some (gap, c) =>
          if !inFlow && c.column < floor then some (start, gap.isBroken, c)
          else (plainWords inFlow floor n gap c).map fun (words, r) => (start ++ words, r)

/-- A plain scalar, and whether the text goes on in another line. -/
def readPlain (inFlow : Bool) (floor : Nat) (c : Cursor) : Option (String × Bool × Cursor) :=
  (plainWords inFlow floor (c.rest.length + 1) {} c).map fun (text, r) => (String.ofList text, r)

/-! ### Block scalars -/

inductive Chomping where
  | clip
  | strip
  | keep
  deriving DecidableEq

structure BlockHeader where
  chomping : Chomping := .clip
  /-- The columns by which the lines are indented, if that is not left to them. -/
  increment : Option Nat := none

def readChomping (h : BlockHeader) (c : Cursor) : Option (BlockHeader × Cursor) :=
  if c.isAt '+' then some ({ h with chomping := .keep }, c.skip 1)
  else if c.isAt '-' then some ({ h with chomping := .strip }, c.skip 1)
  else none

def readIncrement (h : BlockHeader) (c : Cursor) : Option (BlockHeader × Cursor) :=
  match c.rest with
  | x :: _ =>
    if x.isDigit then some ({ h with increment := some (x.toNat - 48) }, c.skip 1) else none
  | [] => none

/-- The chomping and the increment, in any order. -/
def readIndicators (c : Cursor) : BlockHeader × Cursor :=
  match readChomping {} c with
  | some (h, c) => (readIncrement h c).getD (h, c)
  | none =>
    match readIncrement {} c with
    | some (h, c) => (readChomping h c).getD (h, c)
    | none => ({}, c)

def skipToLineEnd (c : Cursor) : Option Cursor :=
  let c := c.skipWhile isGap
  let c := if c.isAt '#' then c.skipWhile fun x => !isBreak x else c
  if c.rest.isEmpty || c.meets isBreak then some c else none

def readHeader (c : Cursor) : Option (BlockHeader × Cursor) :=
  let (h, c) := readIndicators c
  if h.increment = some 0 then none else (skipToLineEnd c).map fun c => (h, c.skipBreak)

/-- Empty lines between the lines of a block scalar: what they add, the widest indentation among
them, and the place behind them. An indentation that is known is not exceeded, and no tab may be
part of it. -/
def readEmptyLines (indent? : Option Nat) (widest : Nat) :
    Nat → Cursor → Option (List Char × Nat × Cursor)
  | 0, _ => none
  | n + 1, c =>
    let spaces := (c.taken (· == ' ')).length
    let c := c.skip (match indent? with
      | none => spaces
      | some indent => min spaces (indent - c.column))
    let widest := max widest c.column
    if c.isAt '\t' && (indent?.map fun indent => decide (c.column < indent)).getD true then none
    else if c.meets isBreak then
      (readEmptyLines indent? widest n c.skipBreak).map fun (breaks, r) =>
        (c.readBreak.1 ++ breaks, r)
    else some ([], widest, c)

/-- What lies between the line just read and the next one. -/
structure LineEnd where
  ownBreak : List Char := []
  breaks : List Char := []
  /-- Whether the line just read begins with a gap. -/
  afterGap : Bool := false

/-- How two lines are joined. Folding turns a single break between them into a space, unless one of
them begins with a gap. -/
def LineEnd.joint (e : LineEnd) (isLiteral beforeGap : Bool) : List Char :=
  if !isLiteral && e.ownBreak == ['\n'] && !e.afterGap && !beforeGap then
    if e.breaks.isEmpty then [' '] else e.breaks
  else e.ownBreak ++ e.breaks

def LineEnd.chomped (e : LineEnd) (chomping : Chomping) : List Char :=
  match chomping with
  | .strip => []
  | .clip => e.ownBreak
  | .keep => e.ownBreak ++ e.breaks

def readLines (isLiteral : Bool) (chomping : Chomping) (indent : Nat) :
    Nat → LineEnd → Cursor → Option (List Char × Cursor)
  | 0, _, _ => none
  | n + 1, e, c =>
    if c.column = indent ∧ ¬ c.rest.isEmpty then
      let startsWithGap := c.meets isGap
      let line := c.taken fun x => !isBreak x
      let atBreak := c.skip line.length
      match readEmptyLines (some indent) 0 (c.rest.length + 1) atBreak.skipBreak with
      | none => none
      | some (breaks, _, next) =>
        let following : LineEnd :=
          { ownBreak := atBreak.readBreak.1, breaks, afterGap := startsWithGap }
        (readLines isLiteral chomping indent n following next).map fun (text, c) =>
          (e.joint isLiteral startsWithGap ++ line ++ text, c)
    else some (e.chomped chomping, c)

/-- A block scalar from its indicator on, inside a block whose content begins at the column
`floor` or further right. -/
def readBlock (floor : Nat) (c : Cursor) : Option (String × Cursor) :=
  let isLiteral := c.isAt '|'
  match readHeader (c.skip 1) with
  | none => none
  | some (h, c) =>
    let known := h.increment.map fun n => floor - 1 + n
    match readEmptyLines known 0 (c.rest.length + 1) c with
    | none => none
    | some (breaks, widest, c) =>
      let indent := known.getD (max (max widest floor) 1)
      (readLines isLiteral h.chomping indent (c.rest.length + 1) { breaks } c).map
        fun (text, c) => (String.ofList text, c)

end Simulcast.Yaml
