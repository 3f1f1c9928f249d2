import Simulcast.Yaml.Token

/-!
# From tokens to a tree

A node is an alias, a scalar, a sequence or a mapping, with an anchor and a tag. Where a node is
missing an empty plain scalar stands for it. A text holds at most one document.
-/

namespace Simulcast.Yaml

structure Properties where
  anchor : Option String := none
  tag : Option String := none
  deriving DecidableEq

inductive Node where
  | alias (name : String)
  | scalar (properties : Properties) (text : String) (isPlain : Bool)
  | sequence (properties : Properties) (items : List Node)
  | mapping (properties : Properties) (entries : List (Node × Node))

namespace Node

def empty : Node := .scalar {} "" true

/-- What the handles of tags stand for. -/
abbrev Handles : Type := List (String × String)

def defaultHandles : Handles := [("!", "!"), ("!!", "tag:yaml.org,2002:")]

/-- The whole of a tag whose handle is known; a tag without a handle is whole already. -/
def wholeTag? (handles : Handles) (handle suffix : String) : Option String :=
  if handle = "" then some suffix
  else (handles.find? (·.1 == handle)).map fun h => h.2 ++ suffix

/-- An anchor and a tag in front of a node, in any order. -/
def readProperties (handles : Handles) : List Token → Option (Properties × List Token)
  | .anchor name :: .tag handle suffix :: rest =>
    (wholeTag? handles handle suffix).map fun tag => ({ anchor := some name, tag }, rest)
  | .tag handle suffix :: .anchor name :: rest =>
    (wholeTag? handles handle suffix).map fun tag => ({ anchor := some name, tag }, rest)
  | .anchor name :: rest => some ({ anchor := some name }, rest)
  | .tag handle suffix :: rest =>
    (wholeTag? handles handle suffix).map fun tag => ({ tag }, rest)
  | ts => some ({}, ts)

/-- A scalar with its properties; the tag that is only a mark says nothing about it. -/
def scalarOf (p : Properties) (text : String) (isPlain : Bool) : Node :=
  .scalar { p with tag := p.tag.filter (· ≠ "!") } text isPlain

inductive Place where
  | flow
  | block
  /-- A key or a value of a block mapping, where a sequence need not be indented. -/
  | blockEntry
  deriving DecidableEq

def endsItem : List Token → Bool
  | .blockEntry :: _ => true
  | .blockEnd :: _ => true
  | _ => false

def endsPart : List Token → Bool
  | .key :: _ => true
  | .value :: _ => true
  | .blockEnd :: _ => true
  | _ => false

def endsFlowPart (close : Token) : List Token → Bool
  | .flowEntry :: _ => true
  | t :: _ => t == close
  | [] => false

def isValue : List Token → Bool
  | .value :: _ => true
  | _ => false

def afterComma? : List Token → Option (List Token)
  | .flowEntry :: ts => some ts
  | _ => none

mutual

def read (handles : Handles) (place : Place) : Nat → List Token → Option (Node × List Token)
  | 0, _ => none
  | _ + 1, .alias name :: ts => some (.alias name, ts)
  | n + 1, ts =>
    match readProperties handles ts with
    | none => none
    | some (p, ts) => readContent handles place p n ts

/-- A node behind its properties. A node of properties only is an empty scalar. -/
def readContent (handles : Handles) (place : Place) (p : Properties) :
    Nat → List Token → Option (Node × List Token)
  | 0, _ => none
  | n + 1, ts =>
    match ts with
    | .scalar text isPlain :: ts => some (scalarOf p text isPlain, ts)
    | .flowSequenceStart :: ts =>
      (readFlowItems handles true n ts).map fun (items, ts) => (.sequence p items, ts)
    | .flowMappingStart :: ts =>
      (readFlowEntries handles true n ts).map fun (entries, ts) => (.mapping p entries, ts)
    | ts =>
      match place, ts with
      | .blockEntry, .blockEntry :: _ =>
        (readLooseItems handles n ts).map fun (items, ts) => (.sequence p items, ts)
      | .block, .blockSequenceStart :: ts | .blockEntry, .blockSequenceStart :: ts =>
        (readItems handles n ts).map fun (items, ts) => (.sequence p items, ts)
      | .block, .blockMappingStart :: ts | .blockEntry, .blockMappingStart :: ts =>
        (readEntries handles n ts).map fun (entries, ts) => (.mapping p entries, ts)
      | _, ts => if p = {} then none else some (.scalar p "" true, ts)

def readItems (handles : Handles) : Nat → List Token → Option (List Node × List Token)
  | 0, _ => none
  | n + 1, ts =>
    match ts with
    | .blockEnd :: ts => some ([], ts)
    | .blockEntry :: ts =>
      match if endsItem ts then some (empty, ts) else read handles .block n ts with
      | none => none
      | some (item, ts) => (readItems handles n ts).map fun (items, ts) => (item :: items, ts)
    | _ => none

/-- The items of a sequence that is not indented, and ends where no item follows. -/
def readLooseItems (handles : Handles) : Nat → List Token → Option (List Node × List Token)
  | 0, _ => none
  | n + 1, ts =>
    match ts with
    | .blockEntry :: ts =>
      match if endsItem ts || endsPart ts then some (empty, ts) else read handles .block n ts with
      | none => none
      | some (item, ts) => (readLooseItems handles n ts).map fun (items, ts) => (item :: items, ts)
    | ts => some ([], ts)

def readEntries (handles : Handles) : Nat → List Token → Option (List (Node × Node) × List Token)
  | 0, _ => none
  | n + 1, ts =>
    match ts with
    | .blockEnd :: ts => some ([], ts)
    | .key :: ts =>
      match if endsPart ts then some (empty, ts) else read handles .blockEntry n ts with
      | none => none
      | some (key, ts) =>
        match readValue handles n ts with
        | none => none
        | some (value, ts) =>
          (readEntries handles n ts).map fun (entries, ts) => ((key, value) :: entries, ts)
    | _ => none

def readValue (handles : Handles) : Nat → List Token → Option (Node × List Token)
  | 0, _ => none
  | n + 1, ts =>
    match ts with
    | .value :: ts => if endsPart ts then some (empty, ts) else read handles .blockEntry n ts
    | ts => some (empty, ts)

def readFlowValue (handles : Handles) (close : Token) :
    Nat → List Token → Option (Node × List Token)
  | 0, _ => none
  | n + 1, ts =>
    match ts with
    | .value :: ts => if endsFlowPart close ts then some (empty, ts) else read handles .flow n ts
    | ts => some (empty, ts)

def readFlowItems (handles : Handles) (isFirst : Bool) :
    Nat → List Token → Option (List Node × List Token)
  | 0, _ => none
  | n + 1, ts =>
    match ts with
    | .flowSequenceEnd :: ts => some ([], ts)
    | ts =>
      match if isFirst then some ts else afterComma? ts with
      | none => none
      | some (.flowSequenceEnd :: ts) => some ([], ts)
      | some ts =>
        match readFlowItem handles n ts with
        | none => none
        | some (item, ts) =>
          (readFlowItems handles false n ts).map fun (items, ts) => (item :: items, ts)

/-- An item of a flow sequence. A key makes it a mapping of one entry; a key without a node takes
the token that stands in the place of the node with it. -/
def readFlowItem (handles : Handles) : Nat → List Token → Option (Node × List Token)
  | 0, _ => none
  | n + 1, ts =>
    match ts with
    | .key :: ts =>
      let isMissing := isValue ts || endsFlowPart .flowSequenceEnd ts
      match if isMissing then some (empty, ts.tail) else read handles .flow n ts with
      | none => none
      | some (key, ts) =>
        (readFlowValue handles .flowSequenceEnd n ts).map fun (value, ts) =>
          (.mapping {} [(key, value)], ts)
    | ts => read handles .flow n ts

/-- The entries of a flow mapping up to its end. A node without a mark is a key without a value. -/
def readFlowEntries (handles : Handles) (isFirst : Bool) :
    Nat → List Token → Option (List (Node × Node) × List Token)
  | 0, _ => none
  | n + 1, ts =>
    match ts with
    | .flowMappingEnd :: ts => some ([], ts)
    | ts =>
      match if isFirst then some ts else afterComma? ts with
      | none => none
      | some (.flowMappingEnd :: ts) => some ([], ts)
      | some ts =>
        match readFlowEntry handles n ts with
        | none => none
        | some (entry, ts) =>
          (readFlowEntries handles false n ts).map fun (entries, ts) => (entry :: entries, ts)

def readFlowEntry (handles : Handles) : Nat → List Token → Option ((Node × Node) × List Token)
  | 0, _ => none
  | n + 1, ts =>
    match ts with
    | .key :: ts =>
      let isMissing := isValue ts || endsFlowPart .flowMappingEnd ts
      match if isMissing then some (empty, ts) else read handles .flow n ts with
      | none => none
      | some (key, ts) =>
        (readFlowValue handles .flowMappingEnd n ts).map fun (value, ts) => ((key, value), ts)
    | ts => (read handles .flow n ts).map fun (key, ts) => ((key, empty), ts)

end

/-! ### Documents -/

/-- The directives in front of a document: at most one version, and each handle at most once. -/
def readDirectives : (versioned : Bool) → Handles → List Token → Option (Handles × List Token)
  | versioned, handles, .version major minor :: ts =>
    if !versioned && major == 1 && (minor == 1 || minor == 2) then readDirectives true handles ts
    else none
  | versioned, handles, .handle name start :: ts =>
    if handles.any (·.1 == name) then none
    else readDirectives versioned (handles ++ [(name, start)]) ts
  | _, handles, ts => some (handles, ts)

/-- The handles of a document: those of its directives go before the usual ones. -/
def withDefaults (handles : Handles) : Handles := handles ++ defaultHandles

def endsDocument : List Token → Bool
  | [] => true
  | .version _ _ :: _ => true
  | .handle _ _ :: _ => true
  | .documentStart :: _ => true
  | .documentEnd :: _ => true
  | _ => false

/-- A document; one whose beginning is marked may be empty. -/
def readDocument (fuel : Nat) (ts : List Token) : Option (Node × List Token) :=
  match readDirectives false [] ts with
  | none => none
  | some (handles, rest) =>
    match rest with
    | .documentStart :: rest =>
      if endsDocument rest then some (empty, rest)
      else read (withDefaults handles) .block fuel rest
    | _ => if rest.length < ts.length then none else read defaultHandles .block fuel ts

/-- The one document that tokens hold, if they do hold one. -/
def readOnly (ts : List Token) : Option Node :=
  match ts with
  | [] => some empty
  | ts =>
    match readDocument (4 * ts.length + 4) ts with
    | none => none
    | some (node, rest) => if rest.all (· == .documentEnd) then some node else none

end Node

end Simulcast.Yaml
