import Simulcast.Remote.Error
import Simulcast.Remote.Process

/-!
# Calls to the service

A call either asks for tokens or carries an access token and a request. What a call is answered
with depends on the call; a service is anything that answers calls and may change by doing so.
-/

namespace Simulcast

inductive Request where
  | listProcesses
  | getProcess (id : String)
  | getOutputs (id : String)
  | createProcess (config : ProcessConfig)
  | command (id : String) (command : Command)
  | deleteProcess (id : String)
  | addOutput (id : String) (output : ProcessOutput)
  | removeOutput (id : String) (output : String)
  deriving DecidableEq

namespace Request

abbrev Answer : Request → Type
  | .listProcesses => List ProcessInfo
  | .getProcess _ => ProcessInfo
  | .getOutputs _ => List String
  | .createProcess _ => String
  | .command _ _ => Unit
  | .deleteProcess _ => Unit
  | .addOutput _ _ => Unit
  | .removeOutput _ _ => Unit

/-- What the request is called in a report of its failure. -/
def label : Request → String
  | .listProcesses => "List processes"
  | .getProcess _ => "Get process"
  | .getOutputs _ => "Get process outputs"
  | .createProcess _ => "Create process"
  | .command _ .start => "Start process"
  | .command _ .stop => "Stop process"
  | .command _ .restart => "Restart process"
  | .deleteProcess _ => "Delete process"
  | .addOutput _ _ => "Add output"
  | .removeOutput _ _ => "Remove output"

end Request

inductive Call where
  | login (username password : String)
  | refresh (token : String)
  | perform (token : String) (request : Request)
  deriving DecidableEq

namespace Call

abbrev Answer : Call → Type
  | .login _ _ => Tokens
  | .refresh _ => Tokens
  | .perform _ request => request.Answer

def isAuthentication : Call → Bool
  | .login _ _ => true
  | .refresh _ => true
  | .perform _ _ => false

end Call

/-- What a call comes back with, and the service afterwards. -/
abbrev Reply (σ α : Type) : Type := Except RemoteError α × σ

class Service (σ : Type) where
  answer : σ → (call : Call) → Reply σ call.Answer

end Simulcast
