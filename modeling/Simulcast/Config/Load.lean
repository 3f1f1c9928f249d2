import Simulcast.Config.Basic

/-!
# Finding and loading a configuration

A configuration is looked for in a directory that is given, named by a variable, or the first of two
usual ones that exists. Its file is laid over the defaults, and then variables override single
values: such a variable has a prefix and the keys of a path, joined by two underscores.
-/

namespace Simulcast

open Yaml

/-- What loading can see of the machine. -/
structure Surroundings where
  assignments : List (String × String) := []
  home : Option String := none
  /-- Whether there is a file or a directory at a path. -/
  isThere : String → Bool := fun _ => false
  /-- The text of the file at a path, if there is one that can be read. -/
  textAt : String → Option String := fun _ => none

namespace Config

def directoryVariable : String := "POLYEMESIS_CONFIG"

def overridePrefix : String := "POLYEMESIS_CONFIG__"

def directoryName : String := ".polyemesis"

def fileName : String := "config.yaml"

def join (directory name : String) : String :=
  if directory = "" ∨ directory.toList.getLast? = some '/' then directory ++ name
  else directory ++ "/" ++ name

/-- The directory to look in. The variable counts even if it is empty. -/
def chooseDirectory (given : String) (s : Surroundings) : String :=
  if given ≠ "" then given
  else
    match (s.assignments.find? (·.1 == directoryVariable)).map (·.2) with
    | some named => named
    | none =>
      if s.isThere directoryName then directoryName
      else
        match s.home.map (join · directoryName) with
        | some inHome => if s.isThere inHome then inHome else directoryName
        | none => directoryName

/-! ### Overrides -/

/-- The parts of a name between pairs of underscores. -/
def splitPairs : List Char → List (List Char)
  | [] => [[]]
  | '_' :: '_' :: rest => [] :: splitPairs rest
  | c :: rest =>
    match splitPairs rest with
    | [] => [[c]]
    | part :: parts => (c :: part) :: parts

/-- The path that a variable of this name overrides. -/
def overridePath? (name : String) : Option (List String) :=
  let start := overridePrefix.toList
  if start.isPrefixOf name.toList then
    some ((splitPairs (name.toList.drop start.length)).map String.ofList)
  else none

def overrideValue (s : String) : Value := (Yaml.read s).getD (.text s)

/-- An override whose path is blocked has no effect. -/
def override (tree : Value) (assignment : String × String) : Value :=
  match overridePath? assignment.1 with
  | none => tree
  | some path =>
    match put (overrideValue assignment.2) path tree with
    | .ok changed => changed
    | .error _ => tree

def overrideAll (tree : Value) (assignments : List (String × String)) : Value :=
  assignments.foldl override tree

/-! ### Loading -/

/-- The tree of a file: the defaults, unless it says anything. -/
def ofFile (s : String) : Except ConfigError Value :=
  match Yaml.read s with
  | none => .error .invalidFile
  | some tree => .ok (if tree.isNull then lowerKeys defaults else overDefaults tree)

/-- Loads the configuration of a directory, or of the one that is found if none is given. A file
that cannot be read counts as missing. -/
def load (given : String) (s : Surroundings) : Except ConfigError Config :=
  let directory := chooseDirectory given s
  let file := join directory fileName
  match (match s.textAt file with
    | some contents => ofFile contents
    | none => .ok (lowerKeys defaults)) with
  | .ok tree => .ok { directory, file, root := overrideAll tree s.assignments }
  | .error error => .error error

end Config

end Simulcast
