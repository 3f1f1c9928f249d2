import Simulcast.Remote.Service

/-!
# A simulated service

The service accepts one account and keeps its processes in a list. It counts the calls it receives,
and it fails the next calls of a kind when it was told to. A call that is not made to fail is
checked for its credentials first and for what it names afterwards.
-/

namespace Simulcast

inductive CallKind where
  | login
  | refresh
  | listProcesses
  | getProcess
  | getOutputs
  | createProcess
  | command
  | deleteProcess
  | addOutput
  | removeOutput
  deriving DecidableEq, Repr

namespace CallKind

def all : List CallKind :=
  [.login, .refresh, .listProcesses, .getProcess, .getOutputs, .createProcess, .command,
   .deleteProcess, .addOutput, .removeOutput]

def name : CallKind → String
  | .login => "Login"
  | .refresh => "Refresh"
  | .listProcesses => "ListProcesses"
  | .getProcess => "GetProcess"
  | .getOutputs => "GetProcessOutputs"
  | .createProcess => "CreateProcess"
  | .command => "ProcessCommand"
  | .deleteProcess => "DeleteProcess"
  | .addOutput => "AddOutput"
  | .removeOutput => "RemoveOutput"

end CallKind

def Request.kind : Request → CallKind
  | .listProcesses => .listProcesses
  | .getProcess _ => .getProcess
  | .getOutputs _ => .getOutputs
  | .createProcess _ => .createProcess
  | .command _ _ => .command
  | .deleteProcess _ => .deleteProcess
  | .addOutput _ _ => .addOutput
  | .removeOutput _ _ => .removeOutput

def Call.kind : Call → CallKind
  | .login _ _ => .login
  | .refresh _ => .refresh
  | .perform _ request => request.kind

structure RunningProcess where
  info : ProcessInfo
  inputUrl : String
  outputs : List ProcessOutput
  deriving DecidableEq

structure Simulated where
  username : String
  password : String
  accessTokens : List String := []
  refreshTokens : List String := []
  tokenCount : Nat := 0
  tokenExpiry : Option Nat := none
  processes : List RunningProcess := []
  processCount : Nat := 0
  /-- How many of the next calls of each kind fail. -/
  failures : CallKind → Nat := fun _ => 0
  /-- How many calls of each kind were received. -/
  calls : CallKind → Nat := fun _ => 0

namespace Simulated

def setCount (counts : CallKind → Nat) (kind : CallKind) (n : Nat) : CallKind → Nat :=
  fun k => if k = kind then n else counts k

def failNext (s : Simulated) (kind : CallKind) (count : Nat) : Simulated :=
  { s with failures := setCount s.failures kind count }

def revokeAccess (s : Simulated) : Simulated := { s with accessTokens := [] }

def revokeRefresh (s : Simulated) : Simulated := { s with refreshTokens := [] }

def find? (s : Simulated) (id : String) : Option RunningProcess :=
  s.processes.find? (·.info.id == id)

def findReference? (s : Simulated) (reference : String) : Option RunningProcess :=
  s.processes.find? (·.info.reference == reference)

def changeFirst (id : String) (f : RunningProcess → RunningProcess) :
    List RunningProcess → List RunningProcess
  | [] => []
  | p :: ps => if p.info.id = id then f p :: ps else p :: changeFirst id f ps

def change (s : Simulated) (id : String) (f : RunningProcess → RunningProcess) : Simulated :=
  { s with processes := changeFirst id f s.processes }

def withoutProcess (s : Simulated) (id : String) : Simulated :=
  { s with processes := s.processes.filter (·.info.id != id) }

end Simulated

namespace RunningProcess

def outputIds (p : RunningProcess) : List String := p.outputs.map (·.id)

def output? (p : RunningProcess) (id : String) : Option ProcessOutput :=
  p.outputs.find? (·.id == id)

def withState (p : RunningProcess) (state : String) : RunningProcess :=
  { p with info := { p.info with state } }

def withOutput (p : RunningProcess) (o : ProcessOutput) : RunningProcess :=
  { p with outputs := p.outputs ++ [o] }

def withoutOutput (p : RunningProcess) (id : String) : RunningProcess :=
  { p with outputs := p.outputs.filter (·.id != id) }

end RunningProcess

namespace Simulated

/-! ### Breaking things from outside -/

/-- Loses an output, and says whether there was one to lose. -/
def dropOutput (s : Simulated) (id output : String) : Bool × Simulated :=
  match s.find? id with
  | none => (false, s)
  | some p => (p.outputs.any (·.id == output), s.change id (·.withoutOutput output))

def setProcessState (s : Simulated) (id state : String) : Bool × Simulated :=
  match s.find? id with
  | none => (false, s)
  | some _ => (true, s.change id (·.withState state))

def forgetProcess (s : Simulated) (id : String) : Bool × Simulated :=
  (s.processes.any (·.info.id == id), s.withoutProcess id)

/-! ### Answering -/

/-- Counts a call, and says whether it fails; a failure uses up one of those that were asked for. -/
def enter (s : Simulated) (kind : CallKind) : Bool × Simulated :=
  let counted := { s with calls := setCount s.calls kind (s.calls kind + 1) }
  if s.failures kind = 0 then (false, counted)
  else (true, { counted with failures := setCount s.failures kind (s.failures kind - 1) })

def simulatedFailure (kind : CallKind) : RemoteError :=
  .transport ("simulated failure of " ++ kind.name)

def issueTokens (s : Simulated) : Tokens × Simulated :=
  let n := s.tokenCount + 1
  let access := "access-" ++ toString n
  let refresh := "refresh-" ++ toString n
  ({ access, refresh := some refresh, expiresAt := s.tokenExpiry },
   { s with
      tokenCount := n
      accessTokens := s.accessTokens ++ [access]
      refreshTokens := s.refreshTokens ++ [refresh] })

def login (s : Simulated) (username password : String) : Reply Simulated Tokens :=
  if username = s.username ∧ password = s.password then
    let (tokens, s) := s.issueTokens
    (.ok tokens, s)
  else (.error (.unauthorized "invalid username or password"), s)

/-- A refresh announces no refresh token of its own, so the old one stays in use. -/
def refresh (s : Simulated) (token : String) : Reply Simulated Tokens :=
  if token ∈ s.refreshTokens then
    let (tokens, s) := s.issueTokens
    (.ok { tokens with refresh := none }, s)
  else (.error (.unauthorized "invalid refresh token"), s)

def noProcess (id : String) : RemoteError := .notFound ("process " ++ id)

def create (s : Simulated) (config : ProcessConfig) : Reply Simulated String :=
  if s.processes.any (·.info.reference == config.reference) then
    (.error (.ofStatus RemoteError.conflictStatus
      ("process with reference " ++ config.reference ++ " already exists")), s)
  else
    let n := s.processCount + 1
    let id := "restreamer-" ++ toString n
    let process : RunningProcess :=
      { info := { id, reference := config.reference, state := ProcessInfo.finishedState }
        inputUrl := config.inputUrl
        outputs := config.outputs }
    (.ok id, { s with processCount := n, processes := s.processes ++ [process] })

def stateAfter : Command → String
  | .start => ProcessInfo.runningState
  | .restart => ProcessInfo.runningState
  | .stop => ProcessInfo.finishedState

def serve (s : Simulated) : (request : Request) → Reply Simulated request.Answer
  | .listProcesses => (.ok (s.processes.map (·.info)), s)
  | .getProcess id =>
    match s.find? id with
    | none => (.error (noProcess id), s)
    | some p => (.ok p.info, s)
  | .getOutputs id =>
    match s.find? id with
    | none => (.error (noProcess id), s)
    | some p => (.ok p.outputIds, s)
  | .createProcess config => s.create config
  | .command id command =>
    match s.find? id with
    | none => (.error (noProcess id), s)
    | some _ => (.ok (), s.change id (·.withState (stateAfter command)))
  | .deleteProcess id =>
    match s.find? id with
    | none => (.error (noProcess id), s)
    | some _ => (.ok (), s.withoutProcess id)
  | .addOutput id output =>
    match s.find? id with
    | none => (.error (noProcess id), s)
    | some p =>
      if p.outputs.any (·.id == output.id) then
        (.error (.ofStatus RemoteError.conflictStatus
          ("output " ++ output.id ++ " already exists")), s)
      else (.ok (), s.change id (·.withOutput output))
  | .removeOutput id output =>
    match s.find? id with
    | none => (.error (noProcess id), s)
    | some p =>
      if p.outputs.any (·.id == output) then (.ok (), s.change id (·.withoutOutput output))
      else (.error (.notFound ("output " ++ output)), s)

def invalidToken : RemoteError := .unauthorized "invalid access token"

def respond (s : Simulated) : (call : Call) → Reply Simulated call.Answer
  | .login username password => s.login username password
  | .refresh token => s.refresh token
  | .perform token request =>
    if token ∈ s.accessTokens then s.serve request else (.error invalidToken, s)

def answer (s : Simulated) (call : Call) : Reply Simulated call.Answer :=
  match s.enter call.kind with
  | (true, s) => (.error (simulatedFailure call.kind), s)
  | (false, s) => s.respond call

instance : Service Simulated := ⟨answer⟩

end Simulated

end Simulcast
