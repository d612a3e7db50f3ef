import Scenario.Disk.Program
import Scenario.Environment
import Scenario.Flow.Document
import Scenario.Request
import Scenario.Run.Id
/-!
Collections.

A collection is a directory with a file `NAME.flow` for each of its flows and a file
`environments/NAME.env` for each of its environments. A name must not be blank, begin with a point,
hold two points in a row or hold a slash, so that no name leaves the collection. A flow that is
saved is written beside its file first and then put in its place.
-/
namespace Scenario

abbrev FileTask (α : Type) : Type 1 := ExceptT FlowError Program α

namespace FileTask
variable {α : Type}

/-- A call whose fault ends the task. -/
def perform (c : Call α) : FileTask α := ExceptT.mk do
  return (← Program.ofCall c).mapError .disk

/-- A call whose fault is looked at. -/
def attempt (c : Call α) : FileTask (Except DiskFault α) := ExceptT.lift (Program.ofCall c)

def ofExcept (result : Except FlowError α) : FileTask α := ExceptT.mk (pure result)

def run (task : FileTask α) (disk : Disk) : Except FlowError α × Disk :=
  Program.run (ExceptT.run task) disk

def readText (path : Path) : FileTask String := do
  let bytes ← perform (.read path)
  match String.fromUTF8? (ByteArray.mk bytes.toArray) with
  | some text => return text
  | none => throw (.disk .notText)

end FileTask

def isName (name : String) : Bool :=
  !Text.isBlankText name && !name.toList.head? == some '.'
    && !name.toList.any (fun c => c == '/' || c == '\\')
    && !Text.occurs "..".toList name.toList

def checkName (name : String) : Except FlowError Unit :=
  if isName name then .ok () else .error (.invalidName name)

def flowSuffix : String := ".flow"

def flowName? (file : String) : Option String :=
  match flowSuffix.toList.isSuffixOf? file.toList with
  | some (c :: name) => some (String.ofList (c :: name))
  | _ => none

structure Collection where
  root : Path
  registry : Registry

namespace Collection

def flowPath (collection : Collection) (name : String) : Except FlowError Path := do
  checkName name
  return collection.root ++ [name ++ flowSuffix]

def environmentPath (root : Path) (name : String) : Except FlowError Path := do
  checkName name
  return root ++ ["environments", name ++ ".env"]

/-- Writes a new flow; none is written as a flow that has no content yet. -/
def create (collection : Collection) (name : String) (flow : Option Flow) : FileTask Path := do
  let path ← FileTask.ofExcept (collection.flowPath name)
  let text ← FileTask.ofExcept (collection.registry.write flow)
  FileTask.perform (.makeDirectories collection.root)
  FileTask.perform (.createNew path)
  FileTask.perform (.fill path (bytesOf text.toList))
  return path

def read (collection : Collection) (name : String) : FileTask (Option Flow) := do
  let path ← FileTask.ofExcept (collection.flowPath name)
  let text ← FileTask.readText path
  FileTask.ofExcept (collection.registry.read text)

/-- The file that is written before it takes the place of another. -/
def draft (path : Path) (id : RunId) : Path :=
  path.dropLast ++ ["." ++ path.getLast?.getD "" ++ "." ++ id.text ++ ".tmp"]

/-- Writes a file beside its place and moves it there; if that fails nothing is left beside it. -/
def replaceFile (path : Path) (bytes : List UInt8) (id : RunId) : FileTask Unit := do
  let draft := draft path id
  match ← FileTask.attempt (.write draft bytes) with
  | .error fault => do
    let _ ← FileTask.attempt (.remove draft)
    throw (.disk fault)
  | .ok () =>
    match ← FileTask.attempt (.rename draft path) with
    | .error fault => do
      let _ ← FileTask.attempt (.remove draft)
      throw (.disk fault)
    | .ok () => return ()

/-- Saves a flow, whether it is there or not; `id` makes the name of the draft unique. -/
def update (collection : Collection) (name : String) (flow : Flow) (id : RunId) :
    FileTask Path := do
  let path ← FileTask.ofExcept (collection.flowPath name)
  let text ← FileTask.ofExcept (collection.registry.write (some flow))
  FileTask.perform (.makeDirectories collection.root)
  replaceFile path (bytesOf text.toList) id
  return path

def delete (collection : Collection) (name : String) : FileTask Bool := do
  let path ← FileTask.ofExcept (collection.flowPath name)
  match ← FileTask.attempt (.remove path) with
  | .ok () => return true
  | .error .notFound => return false
  | .error fault => throw (.disk fault)

def list (collection : Collection) : FileTask (List String) := do
  match ← FileTask.attempt (.list collection.root) with
  | .ok files => return (files.filterMap flowName?).mergeSort fun a b => decide (a ≤ b)
  | .error .notFound => return []
  | .error fault => throw (.disk fault)

def environment (root : Path) (name : String) : FileTask Variables := do
  let path ← FileTask.ofExcept (environmentPath root name)
  return Environment.read (← FileTask.readText path)

end Collection

end Scenario
