import Simulcast.Encoding
import Simulcast.Platform
import Simulcast.Text.Quoted

/-!
# Outputs

An output is one destination of a channel. Its id is never given again within the channel, so links
between a primary and its backup survive when outputs move.
-/

namespace Simulcast

structure OutputId where
  number : Nat
  deriving DecidableEq, Repr

def OutputId.shown (id : OutputId) : String := "OutputId(" ++ toString id.number ++ ")"

structure Output where
  id : OutputId
  platform : Platform
  streamKey : String
  customUrl : Option String := none
  orientation : Orientation
  encoding : Encoding
  enabled : Bool := true
  connected : Bool := false
  /-- Health passes in a row that missed the output. -/
  failures : Nat := 0
  autoReconnect : Bool
  /-- When a health pass last looked, in seconds since the epoch. -/
  lastCheck : Option Nat := none
  backup : Option OutputId := none
  primary : Option OutputId := none
  failoverActive : Bool := false
  failoverStart : Option Nat := none
  deriving DecidableEq

namespace Output

def isBackup (o : Output) : Bool := o.primary.isSome

/-- The address up to the stream key, without slashes at its end. -/
def baseUrl (o : Output) : String :=
  Text.trimEnd '/' (match o.customUrl with
    | some url => url
    | none => o.platform.ingest o.orientation)

/-- Where the process pushes to. The stream key is part of it. -/
def pushUrl (o : Output) : String :=
  if o.baseUrl = "" then o.streamKey
  else if o.streamKey = "" then o.baseUrl
  else o.baseUrl ++ "/" ++ o.streamKey

def markConnected (o : Output) : Output := { o with connected := true, failures := 0 }

def markMissing (o : Output) : Output :=
  { o with connected := false, failures := countUp o.failures }

def fresh (o : Output) : Output :=
  { o with connected := false, failures := 0, lastCheck := none, failoverActive := false
           failoverStart := none }

/-- A new address without blanks around it; an empty one restores that of the platform. -/
def withUrl (o : Output) (url : Option String) : Output :=
  { o with customUrl := (url.map Text.trim).filter (· ≠ "") }

def shown (o : Output) : String :=
  Text.shownRecord "Output"
    [("id", o.id.shown), ("service", o.platform.identifier), ("stream_key", Text.redacted),
     ("target_orientation", o.orientation.shown), ("enabled", Text.shownBool o.enabled),
     ("connected", Text.shownBool o.connected),
     ("consecutive_failures", toString o.failures),
     ("backup", Text.shownOption OutputId.shown o.backup),
     ("primary", Text.shownOption OutputId.shown o.primary)]

end Output

end Simulcast
