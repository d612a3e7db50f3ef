import Scenario.Api.MediaType
import Scenario.Api.Route
import Scenario.Api.Settings
import Scenario.Collection
import Scenario.Run.Event
import Scenario.Runner
/-!
The API.

A service keeps a collection of flows on its disk and runs flows with its runner. `Service.handle`
answers one request; the runs go on while the service works on its disk, and otherwise when
`Service.sleep` or `Service.readStream` lets them. A run that is started answers with a stream,
which is read later.
-/
namespace Scenario.Api

open Json (Value)

structure Incoming where
  method : String
  target : String
  contentType : Option String
  body : String

inductive Content where
  | nothing
  | text (text : String)
  | json (value : Value)
  | stream (run : RunId)
deriving DecidableEq

def Content.type? : Content → Option String
  | .nothing => none
  | .text _ => some "text/plain; charset=utf-8"
  | .json _ => some "application/json"
  | .stream _ => some "application/x-ndjson"

structure Answer where
  status : Status
  contentType : Option String
  content : Content
deriving DecidableEq

namespace Answer

def ofContent (status : Status) (content : Content) : Answer := ⟨status, content.type?, content⟩

def ofStatus (status : Status) : Answer := .ofContent status .nothing

def head (answer : Answer) : Answer := { answer with content := .nothing }

end Answer

structure Service where
  collection : Collection
  disk : Disk
  runner : Runner
  /-- The time limit of a run that is given none. -/
  timeout : UInt64
  /-- How many ids were given out. -/
  issued : Nat

/-- How tasks are carried out on a disk. -/
structure Carrier where
  carry : {α : Type} → FileTask α → Disk → Except FlowError α × Disk

/-- No call fails but for what the disk holds. -/
def Carrier.steady : Carrier := ⟨FileTask.run⟩

/-- Handling a request: it changes the service and may end with a status. -/
abbrev Handling := ExceptT Status (StateM Service)

namespace Service

/-- Carries a task out on the disk; meanwhile the runs go on. -/
def onDisk {α : Type} (fuel : Nat) (task : FileTask α) (service : Service)
    (carrier : Carrier := .steady) : Except FlowError α × Service :=
  let (result, disk) := carrier.carry task service.disk
  (result, { service with disk, runner := service.runner.settle fuel })

def newId (service : Service) : RunId × Service :=
  (.ofNat service.issued, { service with issued := service.issued + 1 })

end Service

namespace Handling
variable {α : Type}

def refuse (status : Status) : Handling α := ExceptT.mk (pure (.error status))

def demand (result : Except Status α) : Handling α := ExceptT.mk (pure result)

/-- A task on the disk whose error ends the handling. -/
def onDisk (fuel : Nat) (task : FileTask α) (carrier : Carrier := .steady) : Handling α :=
  ExceptT.mk do
    let result ← modifyGet fun service => service.onDisk fuel task carrier
    return result.mapError Status.ofError

/-- A task on the disk whose error is looked at. -/
def attempt (fuel : Nat) (task : FileTask α) (carrier : Carrier := .steady) :
    Handling (Except FlowError α) :=
  ExceptT.lift (modifyGet fun service => service.onDisk fuel task carrier)

def newId : Handling RunId := ExceptT.lift (modifyGet Service.newId)

def service : Handling Service := ExceptT.lift get

end Handling

open Handling

def segment (written : List Char) : Handling String :=
  match decodeSegment? written with
  | some text => return text
  | none => refuse .badRequest

/-- A flow that is to be saved must be one that can be run. -/
def validate (flow : Flow) : Except Status Unit :=
  match Graph.build flow with
  | .ok _ => .ok ()
  | .error fault => .error (.ofError (.graph fault))

def decodeFlow (registry : Registry) (document : Value) : Except Status (Option Flow) :=
  (registry.decode document).mapError .ofError

def flowMessage (name event : String) : Value :=
  .ofFields [("name", .string name), ("message", .string ("Flow '" ++ name ++ "' " ++ event))]

def listFlows (fuel : Nat) (carrier : Carrier := .steady) : Handling Answer := do
  let names ← onDisk fuel (← service).collection.list carrier
  return .ofContent .ok (.json (.ofFields [("flows", .array (names.map .string))]))

def getFlow (fuel : Nat) (name : String) (carrier : Carrier := .steady) :
    Handling Answer := do
  let collection := (← service).collection
  let flow ← onDisk fuel (collection.read name) carrier
  let document ← demand ((collection.registry.encode flow).mapError .ofError)
  return .ofContent .ok (.json document)

def createFlow (fuel : Nat) (name body : String) (carrier : Carrier := .steady) :
    Handling Answer := do
  let collection := (← service).collection
  let flow ←
    match ← demand (readOptionalJson body) with
    | some document => demand (decodeFlow collection.registry document)
    | none => pure none
  if let some flow := flow then
    demand (validate flow)
  let _ ← onDisk fuel (collection.create name flow) carrier
  return .ofContent .created (.json (flowMessage name "created successfully"))

/-- The size of the largest body that is taken, in bytes. -/
def bodyLimit : Nat := 2097152

def wholeBody (request : Incoming) : Except Status String :=
  if request.body.utf8ByteSize ≤ bodyLimit then .ok request.body else .error .contentTooLarge

/-- A body of another kind is refused before its size is looked at. -/
def jsonBody (request : Incoming) : Except Status String :=
  if request.contentType.any isJsonType then wholeBody request else .error .unsupportedMediaType

def saveFlow (fuel : Nat) (name : String) (request : Incoming)
    (carrier : Carrier := .steady) : Handling Answer := do
  let body ← demand (jsonBody request)
  let document ← demand (readJson body)
  let collection := (← service).collection
  match ← demand (decodeFlow collection.registry document) with
  | none => refuse .badRequest
  | some flow => do
    demand (validate flow)
    let _ ← onDisk fuel (collection.update name flow (← newId)) carrier
    return .ofContent .ok (.json (flowMessage name "saved successfully"))

def deleteFlow (fuel : Nat) (name : String) (carrier : Carrier := .steady) :
    Handling Answer := do
  if ← onDisk fuel ((← service).collection.delete name) carrier then
    return .ofContent .ok (.json (.ofFields [("message", .string "Flow deleted successfully")]))
  else refuse .notFound

/-- The time limit and the variables of a run; settings win over the environment. -/
def runOptions (fuel : Nat) (settings : RunSettings) (carrier : Carrier := .steady) :
    Handling RunOptions := do
  let service ← service
  let environment ←
    match settings.environment with
    | some name => onDisk fuel (Collection.environment service.collection.root name) carrier
    | none => pure {}
  return ⟨settings.timeout.getD service.timeout,
    environment.override settings.vars.entries⟩

def submit (options : RunOptions) (loaded : Except FlowError (Option Flow)) :
    Handling Answer := do
  let id ← newId
  modify fun service => { service with runner := service.runner.submit id options loaded }
  return .ofContent .ok (.stream id)

def startRun (fuel : Nat) (request : Incoming) (carrier : Carrier := .steady) :
    Handling Answer := do
  let body ← demand (jsonBody request)
  let posted ← demand (RunRequest.read body)
  let options ← runOptions fuel posted.settings carrier
  submit options ((← service).collection.registry.decode posted.flow)

/-- The settings of a body; none, if it is left out. -/
def readSettings (body : String) : Except Status RunSettings := do
  match ← readOptionalJson body with
  | none => return .none
  | some v => (RunSettings.decode v).mapError fun _ => .badRequest

/-- Runs a saved flow. A file that cannot be read is an error of the request; one that holds no
flow is a run that fails. -/
def runFlow (fuel : Nat) (name body : String) (carrier : Carrier := .steady) :
    Handling Answer := do
  let settings ← demand (readSettings body)
  let loaded ← attempt fuel ((← service).collection.read name) carrier
  match loaded with
  | .error (.disk fault) => refuse (.ofError (.disk fault))
  | .error (.invalidName bad) => refuse (.ofError (.invalidName bad))
  | loaded => do
    let options ← runOptions fuel settings carrier
    submit options loaded

def listRuns : Handling Answer := do
  let ids := (← service).runner.active
  return .ofContent .ok (.json (.ofFields [("runs", .array (ids.map RunId.encode))]))

def cancelRun (written : String) : Handling Answer := do
  match RunId.ofText written with
  | .error _ => refuse .badRequest
  | .ok id => do
    let (found, runner) := (← service).runner.cancel id
    modify fun service => { service with runner }
    if found then
      return .ofContent .ok (.json (.ofFields [("runId", id.encode), ("cancelled", .bool true)]))
    else refuse .notFound

/-- Answers a request to an address, unless it does not know the method. -/
def handleRoute (fuel : Nat) (request : Incoming) (route : Route)
    (carrier : Carrier := .steady) : Handling Answer :=
  match route with
  | .health =>
    if request.method = "GET" then return .ofContent .ok (.text "ok") else refuse .methodNotAllowed
  | .runs =>
    if request.method = "GET" then listRuns
    else if request.method = "POST" then startRun fuel request carrier
    else refuse .methodNotAllowed
  | .cancelRun id => do
    if request.method = "POST" then cancelRun (← segment id) else refuse .methodNotAllowed
  | .flows =>
    if request.method = "GET" then listFlows fuel carrier else refuse .methodNotAllowed
  | .flow name => do
    if request.method = "GET" then getFlow fuel (← segment name) carrier
    else if request.method = "POST" then
      createFlow fuel (← segment name) (← demand (wholeBody request)) carrier
    else if request.method = "PUT" then saveFlow fuel (← segment name) request carrier
    else if request.method = "DELETE" then deleteFlow fuel (← segment name) carrier
    else refuse .methodNotAllowed
  | .runFlow name => do
    if request.method = "POST" then
      runFlow fuel (← segment name) (← demand (wholeBody request)) carrier
    else refuse .methodNotAllowed

namespace Service

def start (config : Collection) (disk : Disk) (runner : Runner) (timeout : UInt64) : Service :=
  ⟨config, disk, runner, timeout, 0⟩

def handleAny (fuel : Nat) (request : Incoming) (service : Service)
    (carrier : Carrier := .steady) : Answer × Service :=
  match Route.ofTarget? request.target with
  | none => (.ofStatus .notFound, service)
  | some route =>
    match (handleRoute fuel request route carrier).run.run service with
    | (.ok answer, service) => (answer, service)
    | (.error status, service) => (.ofStatus status, service)

/-- Answers a request. What can be got can also be asked for without its content. -/
def handle (fuel : Nat) (request : Incoming) (service : Service)
    (carrier : Carrier := .steady) : Answer × Service :=
  if request.method = "HEAD" then
    let (answer, service) := service.handleAny fuel { request with method := "GET" } carrier
    (answer.head, service)
  else service.handleAny fuel request carrier

def sleep (fuel duration : Nat) (service : Service) : Service :=
  { service with runner := service.runner.sleep fuel duration }

def readStream (fuel : Nat) (id : RunId) (service : Service) :
    Option (List RunEvent) × Service :=
  let runner := service.runner.finish id fuel
  ((runner.outcome? id).map fun (log, result) => RunEvent.stream log result,
    { service with runner })

end Service

end Scenario.Api
