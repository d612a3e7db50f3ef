import Scenario.Disk.Basic
/-!
Programs of disk calls.

A program is a sequence of calls, each of which may depend on the answers to those before it.
`Program.run` carries it out without interruption; one may as well let calls of other programs come
between or have calls fail.
-/
namespace Scenario

inductive Call : Type → Type where
  | makeDirectories (path : Path) : Call Unit
  | createNew (path : Path) : Call Unit
  | fill (path : Path) (bytes : List UInt8) : Call Unit
  | write (path : Path) (bytes : List UInt8) : Call Unit
  | rename (source target : Path) : Call Unit
  | remove (path : Path) : Call Unit
  | read (path : Path) : Call (List UInt8)
  | list (path : Path) : Call (List String)

namespace Call

def change (disk : Disk) : Except DiskFault Disk → Except DiskFault Unit × Disk
  | .ok changed => (.ok (), changed)
  | .error fault => (.error fault, disk)

def run {α : Type} : Call α → Disk → Except DiskFault α × Disk
  | .makeDirectories path, disk => disk.makeDirectories path
  | .createNew path, disk => change disk (disk.createNew path)
  | .fill path bytes, disk => (.ok (), disk.fill path bytes)
  | .write path bytes, disk => change disk (disk.write path bytes)
  | .rename source target, disk => change disk (disk.rename source target)
  | .remove path, disk => change disk (disk.remove path)
  | .read path, disk => (disk.read path, disk)
  | .list path, disk => (disk.list path, disk)

end Call

inductive Program (α : Type) : Type 1 where
  | done (result : α)
  | call {β : Type} (call : Call β) (next : Except DiskFault β → Program α)

namespace Program
variable {α β : Type}

def bind (program : Program α) (next : α → Program β) : Program β :=
  match program with
  | .done result => next result
  | .call c rest => .call c fun answer => (rest answer).bind next

instance : Monad Program where
  pure := .done
  bind := bind

def ofCall (c : Call α) : Program (Except DiskFault α) := .call c .done

def run (program : Program α) (disk : Disk) : α × Disk :=
  match program with
  | .done result => (result, disk)
  | .call c next =>
    let (answer, disk) := c.run disk
    (next answer).run disk

end Program

end Scenario
