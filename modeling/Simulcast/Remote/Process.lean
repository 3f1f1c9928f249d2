import Simulcast.Json.Printer

/-!
# Processes of the streaming service

A process takes one input and pushes it to several outputs. An output is created with its process
or added later, and its description is sent in a slightly different shape in the two cases: the
filter is one of the options in the first, and a member of its own in the second.
-/

namespace Simulcast

structure ProcessInfo where
  id : String
  reference : String := ""
  state : String := ""
  uptime : Nat := 0
  cpuUsage : Binary64 := Binary64.zero false
  memory : Nat := 0
  deriving DecidableEq

namespace ProcessInfo

def runningState : String := "running"

def finishedState : String := "finished"

def isRunning (p : ProcessInfo) : Bool := p.state == runningState

end ProcessInfo

structure ProcessOutput where
  id : String
  url : String
  videoFilter : Option String := none
  options : List String := []
  deriving DecidableEq

namespace ProcessOutput

/-- The description of an output that joins a process. -/
def json (o : ProcessOutput) : Json :=
  .record
    ([("id", .text o.id)]
      ++ (if o.options.isEmpty then [] else [("options", .texts o.options)])
      ++ [("url", .text o.url)]
      ++ (match o.videoFilter with
          | none => []
          | some f => [("video_filter", .text f)]))

def creationOptions (o : ProcessOutput) : List String :=
  (match o.videoFilter with
    | none => []
    | some f => ["-vf", f]) ++ o.options

def creationJson (o : ProcessOutput) : Json :=
  .record
    ([("address", .text o.url), ("id", .text o.id)]
      ++ (if o.creationOptions.isEmpty then [] else [("options", .texts o.creationOptions)]))

/-- Shown without its address, which holds the stream key. -/
def shown (o : ProcessOutput) : String :=
  Text.shownRecord "ProcessOutput"
    [("id", Text.quoted o.id), ("url", Text.redacted),
     ("video_filter", Text.shownOption Text.quoted o.videoFilter),
     ("options", Text.shownList Text.quoted o.options)]

end ProcessOutput

structure ProcessConfig where
  reference : String
  inputUrl : String
  outputs : List ProcessOutput := []
  deriving DecidableEq

namespace ProcessConfig

def json (c : ProcessConfig) : Json :=
  .record
    [("autostart", .bool false),
     ("input", .array [.record [("address", .text c.inputUrl), ("id", .text "input_0")]]),
     ("output", .array (c.outputs.map ProcessOutput.creationJson)),
     ("reference", .text c.reference)]

def shown (c : ProcessConfig) : String :=
  Text.shownRecord "ProcessConfig"
    [("reference", Text.quoted c.reference), ("input_url", Text.quoted c.inputUrl),
     ("outputs", Text.shownList ProcessOutput.shown c.outputs)]

end ProcessConfig

inductive Command where
  | start
  | stop
  | restart
  deriving DecidableEq, Repr

def Command.name : Command → String
  | .start => "start"
  | .stop => "stop"
  | .restart => "restart"

structure Tokens where
  access : String
  refresh : Option String
  /-- Seconds since the epoch, where the service announces them. -/
  expiresAt : Option Nat
  deriving DecidableEq

def Tokens.shown (t : Tokens) : String :=
  Text.shownRecord "AuthTokens"
    [("access_token", Text.redacted),
     ("refresh_token", Text.shownOption (fun _ => Text.redacted) t.refresh),
     ("expires_at", Text.shownOption toString t.expiresAt)]

end Simulcast
