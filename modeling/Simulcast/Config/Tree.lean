import Simulcast.Text.Case
import Simulcast.Yaml.Value

/-!
# Configuration trees

A configuration is a value whose mappings are addressed by paths of keys. Keys do not depend on
letter case: those of a path and those of a text that is read become lower-case. Merging two trees
replaces what is not a mapping on both sides.
-/

namespace Simulcast

open Yaml

inductive ConfigError where
  | missing (path : List String)
  | notAMapping (path : List String)
  /-- A value on the way to where another should go is not a mapping. -/
  | blocked
  | noHost
  | invalidText
  | invalidFile
  | invalidSection
  deriving DecidableEq

namespace ConfigError

def pathText (path : List String) : String := ".".intercalate path

def message : ConfigError → String
  | .missing path => "Path " ++ pathText path ++ " does not exist"
  | .notAMapping path => "Path " ++ pathText path ++ " is not a Config"
  | .blocked => "Current node is not a map"
  | .noHost => "restreamer.host is not configured"
  | .invalidText => "Invalid configuration"
  | .invalidFile => "Invalid configuration file"
  | .invalidSection => "Invalid section"

end ConfigError

namespace Config

def key (name : String) : Value := .text (Text.lowercase name)

/-- The value at a path; `above` holds the part of the path that leads to the tree. -/
def findFrom (above : List String) : (path : List String) → Value → Except ConfigError Value
  | [], tree => .ok tree
  | name :: rest, .mapping entries =>
    match Entries.get? entries (key name) with
    | some tree => findFrom (above ++ [name]) rest tree
    | none => .error (.missing (above ++ [name]))
  | _ :: _, _ => .error (.notAMapping above)

def find (tree : Value) (path : List String) : Except ConfigError Value := findFrom [] path tree

def find? (tree : Value) (path : List String) : Option Value := (find tree path).toOption

/-- Puts a value at a path and makes the mappings on the way that are not there yet. -/
def put (value : Value) : (path : List String) → Value → Except ConfigError Value
  | [], _ => .ok value
  | name :: rest, .mapping entries =>
    match put value rest ((Entries.get? entries (key name)).getD (.mapping [])) with
    | .ok changed => .ok (.mapping (Entries.insert entries (key name) changed))
    | .error error => .error error
  | _ :: _, _ => .error .blocked

mutual

def merge : (base top : Value) → Value
  | .mapping base, .mapping top => .mapping (mergeEntries base top)
  | _, top => top

def mergeEntries : (base top : Entries) → Entries
  | base, [] => base
  | base, (k, v) :: rest =>
    mergeEntries (Entries.upsert k (fun old => merge old v) v base) rest

end

/-- A key in lower case; keys that are not text stay as they are. -/
def lowerKey : Value → Value
  | .text name => key name
  | k => k

mutual

/-- A tree with all its keys in lower case. Of keys that become the same the last one stays. -/
def lowerKeys : Value → Value
  | .mapping entries => .mapping (lowerEntries [] entries)
  | .sequence items => .sequence (lowerItems items)
  | value => value

def lowerEntries : (done : Entries) → Entries → Entries
  | done, [] => done
  | done, (k, v) :: rest => lowerEntries (Entries.insert done (lowerKey k) (lowerKeys v)) rest

def lowerItems : List Value → List Value
  | [] => []
  | item :: items => lowerKeys item :: lowerItems items

end

def named (entries : List (String × Value)) : Value :=
  .mapping (entries.map fun (name, value) => (.text name, value))

def defaults : Value :=
  named
    [("restreamer", named
        [("host", .text "localhost"), ("port", .integer 8080), ("username", .text ""),
         ("password", .text ""), ("use_https", .bool false), ("timeout_secs", .integer 10),
         ("token_lifetime_secs", .integer 3600)]),
     ("health", named
        [("check_interval_secs", .integer 30), ("failure_threshold", .integer 3),
         ("max_reconnect_attempts", .integer 5), ("reconnect_delay_secs", .integer 5)]),
     ("preview", named [("default_duration_secs", .integer 60)]),
     ("logging", named [("level", .text "info")])]

end Config

end Simulcast
