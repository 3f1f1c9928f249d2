import Simulcast.Json.Reader
import Simulcast.Remote.Service
import Simulcast.Text.Basic

/-!
# Calls over HTTP

A call is one HTTP request, and its answer is read from one response. Ids stand in the path as
percent-encoded segments. A status in the two hundreds is a success; any other is an error with a
message from the body. The service under `Wire` answers from a list of given responses and keeps
the requests it sent.
-/

namespace Simulcast

inductive Method where
  | get
  | post
  | delete
  deriving DecidableEq, Repr

def Method.name : Method → String
  | .get => "GET"
  | .post => "POST"
  | .delete => "DELETE"

structure HttpRequest where
  method : Method
  path : String
  authorization : Option String := none
  contentType : Option String := none
  body : String := ""
  deriving DecidableEq

namespace Request

def processesPath : String := "/api/v3/process"

def processPath (id : String) : String := processesPath ++ "/" ++ Text.Percent.encode id

def outputsPath (id : String) : String := processPath id ++ "/outputs"

def method : Request → Method
  | .listProcesses => .get
  | .getProcess _ => .get
  | .getOutputs _ => .get
  | .createProcess _ => .post
  | .command _ _ => .post
  | .deleteProcess _ => .delete
  | .addOutput _ _ => .post
  | .removeOutput _ _ => .delete

def path : Request → String
  | .listProcesses => processesPath
  | .getProcess id => processPath id
  | .getOutputs id => outputsPath id
  | .createProcess _ => processesPath
  | .command id _ => processPath id ++ "/command"
  | .deleteProcess id => processPath id
  | .addOutput id _ => outputsPath id
  | .removeOutput id output => outputsPath id ++ "/" ++ Text.Percent.encode output

def body? : Request → Option Json
  | .createProcess config => some config.json
  | .command _ c => some (.record [("command", .text c.name)])
  | .addOutput _ output => some output.json
  | _ => none

end Request

namespace Call

def method : Call → Method
  | .login _ _ => .post
  | .refresh _ => .post
  | .perform _ request => request.method

def path : Call → String
  | .login _ _ => "/api/login"
  | .refresh _ => "/api/v3/refresh"
  | .perform _ request => request.path

def bearer? : Call → Option String
  | .login _ _ => none
  | .refresh token => some token
  | .perform token _ => some token

def body? : Call → Option Json
  | .login username password =>
    some (.record [("password", .text password), ("username", .text username)])
  | .refresh _ => none
  | .perform _ request => request.body?

/-- What is posted is JSON, an empty object when the call has nothing to say. -/
def httpRequest (base : String) (call : Call) : HttpRequest where
  method := call.method
  path := base ++ call.path
  authorization := call.bearer?.map ("Bearer " ++ ·)
  contentType := if call.method = .post then some "application/json" else none
  body := if call.method = .post then (call.body?.getD (.object [])).compact else ""

end Call

inductive HttpResponse where
  | full (status : Nat) (body : String)
  | cutShort (status : Nat)
  /-- The connection closes without a response. -/
  | none
  deriving DecidableEq

/-! ### Reading answers -/

namespace Json

/-- The values of the named fields of a structure. It is an object with each field at most once,
other members being passed over, or an array of the fields in order, some of the last left out. -/
def fields? (names : List String) : Json → Option (List (Option Json))
  | .object members =>
    if members.all (·.1.isSome)
        && names.all fun name => (members.filter (·.1 == some name)).length ≤ 1 then
      some (names.map fun name => (members.find? (·.1 == some name)).map (·.2))
    else none
  | .array items =>
    if items.length ≤ names.length then
      some (items.map some ++ List.replicate (names.length - items.length) none)
    else none
  | _ => none

def word? : Json → Option Nat
  | .number n => n.word?
  | _ => none

def float? : Json → Option Binary64
  | .number n => n.float?
  | _ => none

/-- A field that may be left out, but not have the wrong kind. -/
def orDefault (read? : Json → Option α) (fallback : α) : Option Json → Option α
  | none => some fallback
  | some j => read? j

end Json

def ProcessInfo.ofJson? (j : Json) : Option ProcessInfo :=
  match j.fields? ["id", "reference", "state", "uptime", "cpu_usage", "memory"] with
  | some [some id, reference, state, uptime, cpuUsage, memory] => do
    some
      { id := ← id.text?
        reference := ← Json.orDefault Json.text? "" reference
        state := ← Json.orDefault Json.text? "" state
        uptime := ← Json.orDefault Json.word? 0 uptime
        cpuUsage := ← Json.orDefault Json.float? (Binary64.zero false) cpuUsage
        memory := ← Json.orDefault Json.word? 0 memory }
  | _ => none

/-- The id of a structure that is known by it alone. -/
def Json.id? (j : Json) : Option String :=
  match j.fields? ["id"] with
  | some [some id] => id.text?
  | _ => none

def Json.items? : Json → Option (List Json)
  | .array items => some items
  | _ => none

/-- The outputs are listed as they are or as the one field of an object. -/
def Json.outputIds? : Json → Option (List String)
  | .object members =>
    match (Json.object members).fields? ["outputs"] with
    | some [some outputs] => outputs.items?.bind (·.mapM Json.id?)
    | _ => none
  | j => j.items?.bind (·.mapM Json.id?)

def Json.filled? (name : String) (j : Json) : Option String :=
  ((j.field? name).bind Json.text?).filter (· ≠ "")

def Tokens.ofJson? (j : Json) : Option Tokens :=
  (j.filled? "access_token").map fun access =>
    { access, refresh := j.filled? "refresh_token"
      expiresAt := (j.field? "expires_at").bind Json.word? }

def orNotJson : Option α → Except RemoteError α
  | some a => .ok a
  | none => .error .notJson

def readTokens (body : String) : Except RemoteError Tokens :=
  match Json.readSound body with
  | none => .error .notJson
  | some j =>
    match Tokens.ofJson? j with
    | some tokens => .ok tokens
    | none => .error (.malformedResponse "missing access_token")

def readCreated (body : String) : Except RemoteError String :=
  match (Json.read body).bind Json.id? with
  | none => .error .notJson
  | some id =>
    if id = "" then .error (.malformedResponse "created process has no id") else .ok id

def Request.read : (request : Request) → (body : String) → Except RemoteError request.Answer
  | .listProcesses, body =>
    orNotJson (((Json.read body).bind Json.items?).bind (·.mapM ProcessInfo.ofJson?))
  | .getProcess _, body => orNotJson ((Json.read body).bind ProcessInfo.ofJson?)
  | .getOutputs _, body => orNotJson ((Json.readSound body).bind Json.outputIds?)
  | .createProcess _, body => readCreated body
  | .command _ _, _ => .ok ()
  | .deleteProcess _, _ => .ok ()
  | .addOutput _ _, _ => .ok ()
  | .removeOutput _ _, _ => .ok ()

def Call.read : (call : Call) → (body : String) → Except RemoteError call.Answer
  | .login _ _, body => readTokens body
  | .refresh _, body => readTokens body
  | .perform _ request, body => request.read body

/-- A body's own message, or its first two hundred characters, or just the status. -/
def failureMessage (status : Nat) (body : String) : String :=
  let named := match Json.readSound body with
    | some j =>
      ["message", "error", "details"].findSome? fun name => (j.field? name).bind Json.text?
    | none => none
  match named with
  | some message => message
  | none =>
    let trimmed := Text.trim body
    if trimmed = "" then "HTTP status " ++ toString status
    else String.ofList (trimmed.toList.take 200)

/-- A success with no content and an unchanged resource come without a body. -/
def bodyOf (status : Nat) (body : String) : String :=
  if status = 204 ∨ status = 304 then "" else body

def Call.failed (call : Call) : RemoteError :=
  .transport (call.method.name ++ " " ++ call.path ++ " failed: ")

def Call.readResponse (call : Call) : HttpResponse → Except RemoteError call.Answer
  | .none => .error call.failed
  | .cutShort _ => .error (.transport "Failed to read response body: ")
  | .full status body =>
    let body := bodyOf status body
    if 200 ≤ status ∧ status < 300 then call.read body
    else .error (.ofStatus status (failureMessage status body))

/-! ### Sending -/

def isHeaderChar (c : Char) : Bool := c == '\t' || (32 ≤ c.toNat && c.toNat < 127)

def Call.isSendable (call : Call) : Bool :=
  match call.bearer? with
  | some token => token.toList.all isHeaderChar
  | none => true

structure Wire where
  /-- The path part of the address of the service. -/
  base : String := ""
  /-- Whether anybody listens at the address; if not, every call fails before it is sent. -/
  reachable : Bool := true
  pending : List HttpResponse := []
  sent : List HttpRequest := []

namespace Wire

/-- The path part of an address, without the slashes at its end. -/
def baseOfSuffix (suffix : String) : String := Text.trimEnd '/' suffix

/-- When no response is left the service fails with an empty body. -/
def exhausted : HttpResponse := .full 500 ""

def answer (w : Wire) (call : Call) : Reply Wire call.Answer :=
  if w.reachable && call.isSendable then
    (call.readResponse (w.pending.headD exhausted),
     { w with pending := w.pending.tail, sent := w.sent ++ [call.httpRequest w.base] })
  else (.error call.failed, w)

instance : Service Wire := ⟨answer⟩

end Wire

end Simulcast
