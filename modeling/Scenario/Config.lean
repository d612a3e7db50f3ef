import Scenario.Json.Printer
import Scenario.Number.Natural
import Scenario.Run.Result
/-!
Settings.

Every setting has a value of its own and can be changed by an environment variable. A number that
cannot be read or is too large leaves the setting as it is.
-/
namespace Scenario

open Json (Value)

structure Config where
  host : String
  port : UInt16
  /-- The directory of the collection. -/
  directory : String
  timeout : UInt64
  /-- How many requests of a run may fail before the run does. -/
  tolerance : UInt32
  /-- What is written to the diagnostic log. -/
  logFilter : String
deriving DecidableEq

namespace Config

def default : Config := ⟨"127.0.0.1", 3005, "flows", defaultTimeout, 0, "info"⟩

def variableNames : List String :=
  ["FLOWTEST_HOST", "FLOWTEST_PORT", "FLOWTEST_COLLECTION_DIR", "FLOWTEST_TIMEOUT_MS",
    "FLOWTEST_REQUEST_FAILURE_TOLERANCE", "FLOWTEST_LOG"]

/-- The number below a bound that a variable gives. -/
def numberFrom (vars : String → Option String) (name : String) (bound : Nat) : Option Nat :=
  (vars name).bind fun text => Number.naturalBelow? bound text.toList

def ofVariables (vars : String → Option String) : Config where
  host := (vars "FLOWTEST_HOST").getD default.host
  port := ((numberFrom vars "FLOWTEST_PORT" 65536).map UInt16.ofNat).getD default.port
  directory := (vars "FLOWTEST_COLLECTION_DIR").getD default.directory
  timeout :=
    ((numberFrom vars "FLOWTEST_TIMEOUT_MS" 18446744073709551616).map
      UInt64.ofNat).getD default.timeout
  tolerance :=
    ((numberFrom vars "FLOWTEST_REQUEST_FAILURE_TOLERANCE" 4294967296).map
      UInt32.ofNat).getD default.tolerance
  logFilter := (vars "FLOWTEST_LOG").getD default.logFilter

def encode (config : Config) : Value :=
  .ofFields
    [("server", .ofFields [("host", .string config.host),
        ("port", .whole (.ofUInt16 config.port))]),
      ("collection", .ofFields [("dir", .string config.directory)]),
      ("run", .ofFields [("timeout_ms", .whole (.ofUInt64 config.timeout)),
        ("request_failure_tolerance", .whole (.ofUInt32 config.tolerance))]),
      ("logging", .ofFields [("filter", .string config.logFilter)])]

end Config

end Scenario
