import CatalogGraph.Json.Decode

/-!
# Faults of the worker

The engine is reached through a worker process. A request to it can fail before it is written,
while it is under way, or because the worker answers with an error.
-/

namespace CatalogGraph.Worker

open Text

/-- Why a request to the worker failed. -/
inductive Error where
  /-- The worker process could not be started. -/
  | spawnFailed (cause : String)
  /-- The request could not be written. -/
  | writeFailed (cause : String)
  /-- The result has not the expected type. -/
  | deserializeFailed (fault : Json.Fault)
  /-- No answer came within the time. -/
  | timeout (seconds : Nat)
  /-- The worker process has ended. -/
  | exited
  /-- The request was forgotten before its answer came. -/
  | channelClosed
  /-- The worker answered with an error of its own. -/
  | remote (code message : String)
  | driverNotFound (message : String)
  | connectionFailed (message : String)
  | invalidRequest (message : String)
  | methodNotFound (message : String)
deriving DecidableEq, Repr

namespace Error

/-- The text of a fault. -/
def message : Error → String
  | .spawnFailed cause => "failed to spawn worker process: " ++ cause
  | .writeFailed cause => "failed to write to worker: " ++ cause
  | .deserializeFailed fault => "failed to deserialize response: " ++ fault.message
  | .timeout seconds => "request timed out after " ++ decimal seconds ++ " seconds"
  | .exited => "worker process exited unexpectedly"
  | .channelClosed => "response channel closed unexpectedly"
  | .remote code message => "worker error: " ++ message ++ " (code: " ++ code ++ ")"
  | .driverNotFound message => "driver not found: " ++ message
  | .connectionFailed message => "connection failed: " ++ message
  | .invalidRequest message => "invalid request: " ++ message
  | .methodNotFound message => "method not found: " ++ message

/-- Whether the worker is gone, so that every further request will fail. -/
def isExit : Error → Bool
  | .exited | .channelClosed => true
  | _ => false

/-- Whether the request may succeed if it is sent again. -/
def isRetriable : Error → Bool
  | .timeout _ | .connectionFailed _ => true
  | _ => false

/-- The fault that the worker names by a code. -/
def ofCode (code message : String) : Error :=
  if code = "DRIVER_NOT_FOUND" then .driverNotFound message
  else if code = "CONNECTION_FAILED" then .connectionFailed message
  else if code = "INVALID_REQUEST" then .invalidRequest message
  else if code = "METHOD_NOT_FOUND" then .methodNotFound message
  else if code = "WORKER_EXITED" then .exited
  else .remote code message

end Error

end CatalogGraph.Worker
