import Simulcast.Config.Basic

/-!
# Sections of a configuration

A part of the tree can be read as a value of a type. This is strict: texts, numbers and truth values
do not stand for one another. Only tags are passed over, and null is an empty list or mapping.
-/

namespace Simulcast

open Yaml

namespace Config

def strictWord? (v : Value) : Option Nat :=
  match v.untagged with
  | .integer n => if 0 ≤ n ∧ n < wordBound then some n.toNat else none
  | _ => none

def strictBool? (v : Value) : Option Bool :=
  match v.untagged with
  | .bool b => some b
  | _ => none

def strictText? (v : Value) : Option String :=
  match v.untagged with
  | .text s => some s
  | _ => none

def items? (v : Value) : Option (List Value) :=
  match v.untagged with
  | .sequence items => some items
  | .null => some []
  | _ => none

def entries? (v : Value) : Option Entries :=
  match v.untagged with
  | .mapping entries => some entries
  | .null => some []
  | _ => none

def strictTexts? (v : Value) : Option (List String) := (items? v).bind (·.mapM strictText?)

/-- Names with numbers; of a name that comes twice the last number counts. -/
def strictWords? (v : Value) : Option (List (String × Nat)) :=
  match (entries? v).bind (·.mapM fun (k, v) => do some (← strictText? k, ← strictWord? v)) with
  | none => none
  | some pairs =>
    some (pairs.foldl (fun done pair => done.filter (·.1 != pair.1) ++ [pair]) [])

structure Server where
  host : String
  port : Nat
  useHttps : Bool := false
  deriving DecidableEq

namespace Server

def ofFields? (host port useHttps : Option Value) : Option Server := do
  let port ← strictWord? (← port)
  some
    { host := ← strictText? (← host)
      port := ← if port < portBound then some port else none
      useHttps := ← match useHttps with
        | none => some false
        | some v => strictBool? v }

/-- The value of a field that occurs at most once; `none` when it occurs twice. -/
def field? (pairs : List (String × Value)) (name : String) : Option (Option Value) :=
  match pairs.filter (·.1 == name) with
  | [] => some none
  | [pair] => some (some pair.2)
  | _ => none

/-- A server is a mapping with names for keys, other names being passed over, or a sequence of the
fields in order. -/
def ofValue? (v : Value) : Option Server :=
  match v.untagged with
  | .mapping entries => do
    let pairs ← entries.mapM fun (k, v) => (strictText? k).map fun name => (name, v)
    ofFields? (← field? pairs "host") (← field? pairs "port") (← field? pairs "use_https")
  | .sequence [host, port] => ofFields? (some host) (some port) none
  | .sequence [host, port, useHttps] => ofFields? (some host) (some port) (some useHttps)
  | _ => none

end Server

def section? (c : Config) (path : List String) (read? : Value → Option α) : Except ConfigError α :=
  match find c.root path with
  | .error error => .error error
  | .ok value =>
    match read? value with
    | some a => .ok a
    | none => .error .invalidSection

end Config

end Simulcast
