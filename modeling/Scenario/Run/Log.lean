import Scenario.Flow.Basic
import Scenario.Time.Timestamp
/-!
The log of a run.
-/
namespace Scenario

open Json (Value)

inductive Level where
  | info
  | error
deriving DecidableEq, Repr

namespace Level

def all : List Level := [.info, .error]

def name : Level → String
  | .info => "info"
  | .error => "error"

end Level

structure NodeRef where
  id : String
  kind : Kind
deriving DecidableEq, Repr

def Node.ref (node : Node) : NodeRef := ⟨node.id, node.kind⟩

/-- An entry without a payload differs from one whose payload is null. -/
structure LogEntry where
  timestamp : Timestamp
  level : Level
  message : String
  node : Option NodeRef
  payload : Option Value
deriving DecidableEq

end Scenario
