import Simulcast.Yaml.Node
import Simulcast.Yaml.Resolve
import Simulcast.Yaml.Scanner

/-!
# Reading YAML

A text is read when it holds at most one document and every part of that has a value. Anchors are
numbered in the order of the text, and an alias stands for the node that has its number; how deep
values nest and how often aliases are followed is limited.
-/

namespace Simulcast.Yaml

/-! ### Anchors -/

abbrev Names : Type := List (String × Nat)

def Names.number? (names : Names) (name : String) : Option Nat :=
  (names.find? (·.1 == name)).map (·.2)

/-- Gives a name the number that counts the names known so far; a name that is known already loses
its number for the new one. -/
def Names.add (names : Names) (name : String) : Nat × Names :=
  (names.length, (name, names.length) :: names.filter (·.1 != name))

/-- A node in which aliases are numbers. -/
inductive Numbered where
  | alias (number : Nat)
  | scalar (tag : Option String) (text : String) (isPlain : Bool)
  | sequence (tag : Option String) (items : List Numbered)
  | mapping (tag : Option String) (entries : List (Numbered × Numbered))

/-- What numbering leaves: the names, and the nodes that have a number, the latest first. -/
structure Anchors where
  names : Names := []
  nodes : List (Nat × Numbered) := []

namespace Anchors

/-- Takes the number for an anchor before the node is looked into. -/
def enter (a : Anchors) : Option String → Option Nat × Anchors
  | none => (none, a)
  | some name =>
    let (number, names) := a.names.add name
    (some number, { a with names })

/-- Notes the node of a number. Nodes inside it come later in the text and keep their numbers. -/
def note (before after : Anchors) (number : Option Nat) (node : Numbered) : Anchors :=
  match number with
  | none => after
  | some number =>
    let inside := after.nodes.take (after.nodes.length - before.nodes.length)
    { after with nodes := inside ++ (number, node) :: before.nodes }

end Anchors

mutual

def number (a : Anchors) : Node → Option (Numbered × Anchors)
  | .alias name => (a.names.number? name).map fun n => (.alias n, a)
  | .scalar p text isPlain =>
    let (n, entered) := a.enter p.anchor
    let node := Numbered.scalar p.tag text isPlain
    some (node, entered.note entered n node)
  | .sequence p items =>
    let (n, entered) := a.enter p.anchor
    (numberItems entered items).map fun (items, after) =>
      let node := Numbered.sequence p.tag items
      (node, entered.note after n node)
  | .mapping p entries =>
    let (n, entered) := a.enter p.anchor
    (numberEntries entered entries).map fun (entries, after) =>
      let node := Numbered.mapping p.tag entries
      (node, entered.note after n node)

def numberItems (a : Anchors) : List Node → Option (List Numbered × Anchors)
  | [] => some ([], a)
  | item :: items =>
    match number a item with
    | none => none
    | some (item, a) => (numberItems a items).map fun (items, a) => (item :: items, a)

def numberEntries (a : Anchors) :
    List (Node × Node) → Option (List (Numbered × Numbered) × Anchors)
  | [] => some ([], a)
  | (key, value) :: entries =>
    match number a key with
    | none => none
    | some (key, a) =>
      match number a value with
      | none => none
      | some (value, a) =>
        (numberEntries a entries).map fun (entries, a) => ((key, value) :: entries, a)

end

/-! ### Values -/

mutual

/-- How many events a node is read in: one for each scalar and alias, two for each collection. -/
def Numbered.size : Numbered → Nat
  | .alias _ => 1
  | .scalar _ _ _ => 1
  | .sequence _ items => 2 + sizeOfItems items
  | .mapping _ entries => 2 + sizeOfEntries entries

def Numbered.sizeOfItems : List Numbered → Nat
  | [] => 0
  | item :: items => item.size + sizeOfItems items

def Numbered.sizeOfEntries : List (Numbered × Numbered) → Nat
  | [] => 0
  | (key, value) :: entries => key.size + value.size + sizeOfEntries entries

end

def ownTag? (tag : Option String) : Option String :=
  match tag with
  | none => none
  | some t =>
    match t.toList with
    | '!' :: name => some (String.ofList name)
    | _ => none

/-- A second mark does not belong to the name of a tag, unless it is all there is. -/
def tagName (name : String) : String :=
  match name.toList with
  | '!' :: c :: rest => String.ofList (c :: rest)
  | _ => name

/-- Puts the own tag of a node around its value; it may not be empty. -/
def withTag? (tag : Option String) (value : Value) : Option Value :=
  match ownTag? tag with
  | none => some value
  | some name => if name = "" then none else some (.tagged (tagName name) value)

def scalarValue? (tag : Option String) (text : String) (isPlain : Bool) : Option Value :=
  match tag with
  | none => untaggedScalar? isPlain text
  | some t =>
    if (ownTag? tag).isSome then (untaggedScalar? isPlain text).bind (withTag? tag)
    else coreScalar? t text

/-- Reads in order and counts the aliases that are followed. -/
def valuesOf (value? : Numbered → Nat → Option (Value × Nat)) :
    List Numbered → Nat → Option (List Value × Nat)
  | [], followed => some ([], followed)
  | item :: items, followed =>
    match value? item followed with
    | none => none
    | some (item, followed) =>
      (valuesOf value? items followed).map fun (items, followed) => (item :: items, followed)

/-- Reads entries in order; no key may come twice. -/
def entriesOf (value? : Numbered → Nat → Option (Value × Nat)) :
    List (Numbered × Numbered) → (before : Entries) → Nat →
      Option (Entries × Nat)
  | [], before, followed => some (before, followed)
  | (key, value) :: entries, before, followed =>
    match value? key followed with
    | none => none
    | some (key, followed) =>
      if Entries.has before key then none
      else
        match value? value followed with
        | none => none
        | some (value, followed) => entriesOf value? entries (before ++ [(key, value)]) followed

/-- What aliases stand for, and how many of them may be followed. -/
structure Surrounding where
  nodes : List (Nat × Numbered)
  mostFollowed : Nat

def Surrounding.node? (s : Surrounding) (number : Nat) : Option Numbered :=
  (s.nodes.find? (·.1 == number)).map (·.2)

/-- The value of a node that is no alias, with the reading of what is inside it. -/
def valueInside? (inside? : Option (Numbered → Nat → Option (Value × Nat))) (node : Numbered)
    (followed : Nat) : Option (Value × Nat) :=
  match node, inside? with
  | .alias _, _ => none
  | .scalar tag text isPlain, _ => (scalarValue? tag text isPlain).map fun v => (v, followed)
  | .sequence _ _, none => none
  | .mapping _ _, none => none
  | .sequence tag items, some value? =>
    match valuesOf value? items followed with
    | none => none
    | some (items, followed) => (withTag? tag (.sequence items)).map fun v => (v, followed)
  | .mapping tag entries, some value? =>
    match entriesOf value? entries [] followed with
    | none => none
    | some (entries, followed) => (withTag? tag (.mapping entries)).map fun v => (v, followed)

def valueFollowing? (s : Surrounding) (inside? : Option (Numbered → Nat → Option (Value × Nat)))
    (node : Numbered) (followed : Nat) : Option (Value × Nat) :=
  match node with
  | .alias number =>
    if s.mostFollowed < followed + 1 then none
    else
      match s.node? number with
      | none => none
      | some node => valueInside? inside? node (followed + 1)
  | node => valueInside? inside? node followed

/-- The value of a node in which collections nest at most `depth` deep. -/
def value? (s : Surrounding) : (depth : Nat) → Numbered → Nat → Option (Value × Nat)
  | 0 => valueFollowing? s none
  | depth + 1 => valueFollowing? s (some (value? s depth))

def deepest : Nat := 128

def followedPerEvent : Nat := 100

def valueOf? (node : Node) : Option Value :=
  match number {} node with
  | none => none
  | some (node, a) =>
    let s : Surrounding := { nodes := a.nodes, mostFollowed := followedPerEvent * node.size }
    (value? s deepest node 0).map (·.1)

def readAll (cs : List Char) : Option Value := ((tokens? cs).bind Node.readOnly).bind valueOf?

def read (s : String) : Option Value := readAll s.toList

end Simulcast.Yaml
