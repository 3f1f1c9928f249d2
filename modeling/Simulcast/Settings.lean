import Simulcast.Text.Quoted
import Simulcast.Time

/-!
# Where and how to reach the service
-/

namespace Simulcast

structure Settings where
  host : String
  port : Nat
  username : String := ""
  password : String := ""
  useHttps : Bool := false
  /-- The time one request may take. -/
  timeout : Duration := .ofSecs 10
  /-- How long a token lives when the service does not say. -/
  tokenLifetime : Duration := .ofSecs 3600
  deriving DecidableEq

namespace Settings

def defaultPort : Nat := 8080

/-- No port is the default one. -/
def effectivePort (s : Settings) : Nat := if s.port = 0 then defaultPort else s.port

def baseUrl (s : Settings) : String :=
  (if s.useHttps then "https" else "http") ++ "://" ++ s.host ++ ":" ++ toString s.effectivePort

def hasCredentials (s : Settings) : Bool := s.username ≠ "" ∧ s.password ≠ ""

end Settings

/-- The first unit that the duration fills, with the fraction that is left. -/
def Duration.shown (d : Duration) : String :=
  let whole (unit : Nat) (places : Nat) (name : String) : String :=
    let digits := toString (d.nanos % unit)
    let padded := List.replicate (places - digits.length) '0' ++ digits.toList
    let fraction := (padded.reverse.dropWhile (· == '0')).reverse
    toString (d.nanos / unit)
      ++ (if fraction.isEmpty then "" else "." ++ String.ofList fraction) ++ name
  if 1000000000 ≤ d.nanos then whole 1000000000 9 "s"
  else if 1000000 ≤ d.nanos then whole 1000000 6 "ms"
  else if 1000 ≤ d.nanos then whole 1000 3 "µs"
  else toString d.nanos ++ "ns"

def Settings.shown (s : Settings) : String :=
  Text.shownRecord "ConnectionSettings"
    [("host", Text.quoted s.host), ("port", toString s.port),
     ("username", Text.quoted s.username), ("password", Text.redacted),
     ("use_https", Text.shownBool s.useHttps), ("timeout", s.timeout.shown),
     ("token_lifetime", s.tokenLifetime.shown)]

end Simulcast
