import Simulcast.Time

/-!
# What can go wrong between a session and the service
-/

namespace Simulcast

inductive RemoteError where
  | unauthorized (message : String)
  | notFound (message : String)
  | transport (message : String)
  | notJson
  | malformedResponse (message : String)
  | api (code : Nat) (message : String)
  | rateLimited
  /-- Refused on this side, for as long as the backoff lasts. -/
  | throttled (retryIn : Duration)
  | missingCredentials
  | noRefreshToken
  | configuration (message : String)
  deriving DecidableEq

namespace RemoteError

/-- The error that a status outside the two hundreds stands for. -/
def ofStatus (code : Nat) (message : String) : RemoteError :=
  if code = 401 ∨ code = 403 then .unauthorized message
  else if code = 404 then .notFound message
  else if code = 429 then .rateLimited
  else .api code message

def status? : RemoteError → Option Nat
  | .unauthorized _ => some 401
  | .notFound _ => some 404
  | .rateLimited => some 429
  | .api code _ => some code
  | _ => none

def isAuth : RemoteError → Bool
  | .unauthorized _ => true
  | _ => false

def isNotFound : RemoteError → Bool
  | .notFound _ => true
  | _ => false

/-- The status of a name that is already taken. -/
def conflictStatus : Nat := 409

def isConflict (e : RemoteError) : Bool := e.status? == some conflictStatus

def message : RemoteError → String
  | .unauthorized m => "Authentication failed: " ++ m
  | .notFound m => "Resource not found: " ++ m
  | .transport m => "Transport error: " ++ m
  | .notJson => "JSON parsing error: "
  | .malformedResponse m => "Malformed response: " ++ m
  | .api code m => "Restreamer API error (code " ++ toString code ++ "): " ++ m
  | .rateLimited => "Rate limit exceeded, please try again later"
  | .throttled d => "Login throttled, retry in " ++ toString (max d.secs 1) ++ " seconds"
  | .missingCredentials => "Missing credentials"
  | .noRefreshToken => "No refresh token available"
  | .configuration m => "Restreamer configuration error: " ++ m

def kind : RemoteError → String
  | .unauthorized _ => "Unauthorized"
  | .notFound _ => "NotFound"
  | .transport _ => "Transport"
  | .notJson => "JsonParse"
  | .malformedResponse _ => "MalformedResponse"
  | .api _ _ => "ApiError"
  | .rateLimited => "RateLimitExceeded"
  | .throttled _ => "Throttled"
  | .missingCredentials => "MissingCredentials"
  | .noRefreshToken => "NoRefreshToken"
  | .configuration _ => "Configuration"

end RemoteError

end Simulcast
