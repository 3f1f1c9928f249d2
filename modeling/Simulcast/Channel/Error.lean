import Simulcast.Remote.Error

/-!
# Status and errors of a channel

An input error names something that does not exist or may not be done in the present state.
-/

namespace Simulcast

inductive Status where
  | inactive
  | starting
  | active
  | preview
  | stopping
  | error
  deriving DecidableEq, Repr

def Status.name : Status → String
  | .inactive => "inactive"
  | .starting => "starting"
  | .active => "active"
  | .preview => "preview"
  | .stopping => "stopping"
  | .error => "error"

inductive ChannelError where
  | channelNotFound (id : String)
  | invalidOutputIndex (index count : Nat)
  | selfBackup (index : Nat)
  | backupCycle (primary backup : Nat)
  | noBackup (index : Nat)
  | noActiveFailover (index : Nat)
  | invalidState (operation : String) (status : Status)
  | noEnabledOutputs
  | missingInputUrl
  | missingProcessReference
  | processNotFound (reference : String)
  | processNotRunning (state : String)
  | reconnectExhausted (index attempts : Nat)
  | templateNotFound (id : String)
  | builtinTemplate (id : String)
  | bulk (failed total : Nat)
  | remote (error : RemoteError)
  deriving DecidableEq

namespace ChannelError

def isInputError : ChannelError → Bool
  | .channelNotFound _ => true
  | .invalidOutputIndex _ _ => true
  | .selfBackup _ => true
  | .backupCycle _ _ => true
  | .noBackup _ => true
  | .invalidState _ _ => true
  | .templateNotFound _ => true
  | .builtinTemplate _ => true
  | _ => false

def message : ChannelError → String
  | .channelNotFound id => "Channel not found: " ++ id
  | .invalidOutputIndex index count =>
    "Output index " ++ toString index ++ " out of range (" ++ toString count ++ " outputs)"
  | .selfBackup index => "Output " ++ toString index ++ " cannot be its own backup"
  | .backupCycle primary backup =>
    "Backup link " ++ toString primary ++ " -> " ++ toString backup ++ " would create a cycle"
  | .noBackup index => "Output " ++ toString index ++ " has no backup"
  | .noActiveFailover index => "Output " ++ toString index ++ " is not failed over"
  | .invalidState operation status =>
    "Cannot " ++ operation ++ " while channel is " ++ status.name
  | .noEnabledOutputs => "No enabled outputs configured"
  | .missingInputUrl => "Channel has no input URL"
  | .missingProcessReference => "Active channel has no process reference"
  | .processNotFound reference => "Remote process not found for reference " ++ reference
  | .processNotRunning state => "Remote process is not running (state: " ++ state ++ ")"
  | .reconnectExhausted index attempts =>
    "Reconnect attempts exhausted for output " ++ toString index ++ " after "
      ++ toString attempts ++ " failures"
  | .templateNotFound id => "Template not found: " ++ id
  | .builtinTemplate id => "Built-in template " ++ id ++ " cannot be deleted"
  | .bulk failed total => toString failed ++ " of " ++ toString total ++ " outputs failed"
  | .remote error => "Restreamer error: " ++ error.message

def kind : ChannelError → String
  | .channelNotFound _ => "ChannelNotFound"
  | .invalidOutputIndex _ _ => "InvalidOutputIndex"
  | .selfBackup _ => "SelfBackup"
  | .backupCycle _ _ => "BackupCycle"
  | .noBackup _ => "NoBackup"
  | .noActiveFailover _ => "NoActiveFailover"
  | .invalidState _ _ => "InvalidState"
  | .noEnabledOutputs => "NoEnabledOutputs"
  | .missingInputUrl => "MissingInputUrl"
  | .missingProcessReference => "MissingProcessReference"
  | .processNotFound _ => "ProcessNotFound"
  | .processNotRunning _ => "ProcessNotRunning"
  | .reconnectExhausted _ _ => "ReconnectExhausted"
  | .templateNotFound _ => "TemplateNotFound"
  | .builtinTemplate _ => "BuiltinTemplate"
  | .bulk _ _ => "Bulk"
  | .remote _ => "Restreamer"

end ChannelError

end Simulcast
