import Scenario.Flow.Error
/-!
Statuses of HTTP.
-/
namespace Scenario.Api

inductive Status where
  | ok
  | created
  | badRequest
  | notFound
  | methodNotAllowed
  | conflict
  | contentTooLarge
  | unsupportedMediaType
  | unprocessable
  | internalError
deriving DecidableEq, Repr

namespace Status

def code : Status → Nat
  | .ok => 200
  | .created => 201
  | .badRequest => 400
  | .notFound => 404
  | .methodNotAllowed => 405
  | .conflict => 409
  | .contentTooLarge => 413
  | .unsupportedMediaType => 415
  | .unprocessable => 422
  | .internalError => 500

/-- The status of an answer that reports an error: the client is to blame for bad names and
documents, for what is missing and for what is there already. -/
def ofError : FlowError → Status
  | .invalidName _ | .document _ | .graph _ => .badRequest
  | .disk .notFound => .notFound
  | .disk .alreadyExists => .conflict
  | .disk _ | .unregistered _ | .wrongStep .. => .internalError

end Status

end Scenario.Api
