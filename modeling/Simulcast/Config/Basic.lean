import Simulcast.Channel.Basic
import Simulcast.Config.Tree
import Simulcast.Settings
import Simulcast.Text.Basic
import Simulcast.Yaml.Reader

/-!
# Configurations

A configuration is a tree together with the place it was looked for. Its settings are read with a
type: a value of another kind counts as not set, but a text may hold a number or a truth value with
blanks around it. Changes stay in memory.
-/

namespace Simulcast

open Yaml

structure Config where
  directory : String := ""
  file : String := ""
  root : Value := Config.defaults

/-! ### Settings -/

inductive WordSetting where
  | timeoutSecs
  | tokenLifetimeSecs
  | checkIntervalSecs
  | failureThreshold
  | maxReconnectAttempts
  | reconnectDelaySecs
  | previewSecs
  deriving DecidableEq

namespace WordSetting

def path : WordSetting → List String
  | .timeoutSecs => ["restreamer", "timeout_secs"]
  | .tokenLifetimeSecs => ["restreamer", "token_lifetime_secs"]
  | .checkIntervalSecs => ["health", "check_interval_secs"]
  | .failureThreshold => ["health", "failure_threshold"]
  | .maxReconnectAttempts => ["health", "max_reconnect_attempts"]
  | .reconnectDelaySecs => ["health", "reconnect_delay_secs"]
  | .previewSecs => ["preview", "default_duration_secs"]

def fallback : WordSetting → Nat
  | .timeoutSecs => 10
  | .tokenLifetimeSecs => 3600
  | .checkIntervalSecs => 30
  | .failureThreshold => 3
  | .maxReconnectAttempts => 5
  | .reconnectDelaySecs => 5
  | .previewSecs => 60

end WordSetting

inductive TextSetting where
  | host
  | username
  | password
  | logLevel
  deriving DecidableEq

namespace TextSetting

def path : TextSetting → List String
  | .host => ["restreamer", "host"]
  | .username => ["restreamer", "username"]
  | .password => ["restreamer", "password"]
  | .logLevel => ["logging", "level"]

def fallback : TextSetting → String
  | .host => "localhost"
  | .username => ""
  | .password => ""
  | .logLevel => "info"

end TextSetting

namespace Config

/-- A whole number of digits with an optional plus sign, if it is below a bound. -/
def wordBelow? (bound : Nat) (s : String) : Option Nat :=
  (digits? 10 (dropPlus (Text.trim s).toList)).filter (· < bound)

def wordBound : Nat := twoTo 64

def portBound : Nat := twoTo 16

/-- The number below a bound that a value holds or spells. -/
def wordOf? (bound : Nat) : Value → Option Nat
  | .integer n => if 0 ≤ n ∧ n < bound then some n.toNat else none
  | .text s => wordBelow? bound s
  | _ => none

def boolOf? : Value → Option Bool
  | .bool b => some b
  | .text s =>
    let s := Text.trim s
    if s = "true" then some true else if s = "false" then some false else none
  | _ => none

def textOf? : Value → Option String
  | .text s => some s
  | v => v.numberText?

def value? (c : Config) (path : List String) : Option Value := find? c.root path

def word (c : Config) (s : WordSetting) : Nat :=
  ((c.value? s.path).bind (wordOf? wordBound)).getD s.fallback

def text (c : Config) (s : TextSetting) : String :=
  ((c.value? s.path).bind textOf?).getD s.fallback

def useHttpsPath : List String := ["restreamer", "use_https"]

def useHttps (c : Config) : Bool := ((c.value? useHttpsPath).bind boolOf?).getD false

def portPath : List String := ["restreamer", "port"]

/-- The port; a missing one, one that is none and zero all mean the default. -/
def port (c : Config) : Nat :=
  (((c.value? portPath).bind (wordOf? portBound)).filter (· ≠ 0)).getD Settings.defaultPort

/-! ### Changes -/

def set (c : Config) (path : List String) (value : Value) : Except ConfigError Config :=
  match put value path c.root with
  | .ok root => .ok { c with root }
  | .error error => .error error

def setWord (c : Config) (s : WordSetting) (n : Nat) : Except ConfigError Config :=
  c.set s.path (.integer n)

def setText (c : Config) (s : TextSetting) (value : String) : Except ConfigError Config :=
  c.set s.path (.text value)

def setUseHttps (c : Config) (b : Bool) : Except ConfigError Config := c.set useHttpsPath (.bool b)

def setPort (c : Config) (n : Nat) : Except ConfigError Config := c.set portPath (.integer n)

/-! ### What the settings are for -/

def settings (c : Config) : Except ConfigError Settings :=
  let host := Text.trim (c.text .host)
  if host = "" then .error .noHost
  else
    .ok
      { host, port := c.port, username := c.text .username, password := c.text .password
        useHttps := c.useHttps, timeout := .ofSecs (max (c.word .timeoutSecs) 1)
        tokenLifetime := .ofSecs (c.word .tokenLifetimeSecs) }

def healthDefaults (c : Config) : HealthDefaults where
  interval := .ofSecs (c.word .checkIntervalSecs)
  threshold := min (c.word .failureThreshold) counterMax
  maxAttempts := min (c.word .maxReconnectAttempts) counterMax
  delay := .ofSecs (c.word .reconnectDelaySecs)

def previewDuration (c : Config) : Duration := .ofSecs (c.word .previewSecs)

/-! ### Texts -/

def overDefaults (tree : Value) : Value := lowerKeys (merge defaults (lowerKeys tree))

def ofText (s : String) : Except ConfigError Config :=
  match Yaml.read s with
  | some tree => .ok { root := overDefaults tree }
  | none => .error .invalidText

end Config

end Simulcast
