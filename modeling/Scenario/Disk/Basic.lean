import Scenario.Disk.Fault
/-!
A tree of files.

A path is the list of names on the way from the top of the tree. A name has at most 255 bytes and
no zero byte, and a path as a whole has no more bytes than the machine allows. The calls fail as
those of a file system do:
on the way to its last name a path must meet directories only, and the first name at which it does
not decides the fault.

`lookup_below` says that the entries below a name are those whose paths go on from it, and
`mem_gaps` that only what is not there is made.
-/
namespace Scenario

abbrev Path := List String

def Path.text (path : Path) : String := "/".intercalate path

inductive File where
  | file (bytes : List UInt8)
  | directory
deriving DecidableEq

/-- How long the paths of a machine may be. -/
structure PathLimits where
  /-- How many bytes a path may have that is counted from the root of the machine. -/
  longest : Nat := 4095
  /-- How many bytes of it lead to the top of the tree. -/
  top : Nat := 15
deriving DecidableEq

structure Disk where
  entries : List (Path × File)
  distinct : (entries.map Prod.fst).Nodup
  limits : PathLimits := {}

namespace PathLimits

/-- The bytes of a path, with a slash before each name. -/
def size (limits : PathLimits) (path : Path) : Nat :=
  path.foldl (fun size name => size + 1 + name.utf8ByteSize) limits.top

def check (limits : PathLimits) (path : Path) : Except DiskFault Unit :=
  if path.any (·.contains '\x00') then .error .zeroInName
  else if limits.longest < limits.size path then .error .nameTooLong
  else .ok ()

end PathLimits

namespace Disk

def empty (limits : PathLimits := {}) : Disk := ⟨[], List.nodup_nil, limits⟩

instance : EmptyCollection Disk := ⟨empty⟩

instance : Inhabited Disk := ⟨empty⟩

/-- What stands at a path; at the top it is a directory. -/
def get? (disk : Disk) (path : Path) : Option File :=
  if path = [] then some .directory else disk.entries.lookup path

def erase (disk : Disk) (path : Path) : Disk where
  limits := disk.limits
  entries := disk.entries.filter fun entry => entry.1 ≠ path
  distinct := disk.distinct.sublist (List.filter_sublist.map Prod.fst)

def set (disk : Disk) (path : Path) (file : File) : Disk where
  limits := disk.limits
  entries := (disk.erase path).entries ++ [(path, file)]
  distinct := by
    rw [List.map_append, List.nodup_append]
    refine ⟨(disk.erase path).distinct, by simp, ?_⟩
    intro a present b last
    simp only [erase, List.mem_map, List.mem_filter] at present
    obtain ⟨entry, ⟨-, other⟩, rfl⟩ := present
    simp only [List.map_cons, List.map_nil, List.mem_singleton] at last
    simpa [last] using other

def longestName : Nat := 255

def checkName (name : String) : Except DiskFault Unit :=
  if longestName < name.utf8ByteSize then .error .nameTooLong else .ok ()

/-- The entries whose paths start with a name, each with the rest of its path. -/
def below (name : String) (entries : List (Path × File)) : List (Path × File) :=
  entries.filterMap fun
    | (first :: rest, file) => if first = name then some (rest, file) else none
    | ([], _) => none

theorem lookup_below (name : String) (path : Path) (entries : List (Path × File)) :
    (below name entries).lookup path = entries.lookup (name :: path) := by
  induction entries with
  | nil => rfl
  | cons entry entries ih =>
    unfold below at ih ⊢
    rw [List.filterMap_cons]
    match entry with
    | ([], file) => simpa [List.lookup_cons] using ih
    | (first :: rest, file) =>
      by_cases same : name = first
      · subst same
        simp only [if_true, List.lookup_cons, ih]
        by_cases equal : path = rest <;> simp [equal]
      · have other : (name :: path == first :: rest) = false := by simp [same]
        simp only [if_neg (Ne.symm same), List.lookup_cons, other, ih]

/-- What stands at the end of a path that starts at a file, with the entries below it. -/
def walk (here : Option File) (entries : List (Path × File)) :
    Path → Except DiskFault (Option File)
  | [] => .ok here
  | name :: rest =>
    match here with
    | none => .error .notFound
    | some (.file _) => .error .notADirectory
    | some .directory => do
      checkName name
      let inside := below name entries
      walk (inside.lookup []) inside rest

def locate (disk : Disk) (path : Path) : Except DiskFault (Option File) := do
  disk.limits.check path
  walk (some .directory) disk.entries path

/-- The directories of a path that are not there, the outermost first, and the fault that keeps
the rest of it from being made. -/
def gaps (entries : List (Path × File)) : Path → List Path × Option DiskFault
  | [] => ([], none)
  | name :: rest =>
    if longestName < name.utf8ByteSize then ([], some .nameTooLong)
    else
      let inside := below name entries
      match inside.lookup [] with
      | some (.file _) => ([], some (if rest.isEmpty then .alreadyExists else .notADirectory))
      | here =>
        let (later, fault) := gaps inside rest
        let later := later.map (name :: ·)
        (if here.isNone then [name] :: later else later, fault)

theorem mem_gaps {path gap : Path} {entries : List (Path × File)}
    (missing : gap ∈ (gaps entries path).1) : gap ≠ [] ∧ entries.lookup gap = none := by
  induction path generalizing entries gap with
  | nil => simp [gaps] at missing
  | cons name rest ih =>
    have deeper (missing : gap ∈ (gaps (below name entries) rest).1.map (name :: ·)) :
        gap ≠ [] ∧ entries.lookup gap = none := by
      obtain ⟨inner, found, rfl⟩ := List.mem_map.1 missing
      exact ⟨by simp, lookup_below name inner entries ▸ (ih found).2⟩
    simp only [gaps] at missing
    split at missing
    · simp at missing
    · split at missing
      · simp at missing
      · split at missing
        · rename_i absent
          rcases List.mem_cons.1 missing with rfl | missing
          · exact ⟨by simp, lookup_below name [] entries ▸ Option.isNone_iff_eq_none.1 absent⟩
          · exact deeper missing
        · exact deeper missing

theorem nodup_gaps (entries : List (Path × File)) (path : Path) : (gaps entries path).1.Nodup := by
  induction path generalizing entries with
  | nil => simp [gaps]
  | cons name rest ih =>
    have deeper : ((gaps (below name entries) rest).1.map (name :: ·)).Nodup :=
      List.Pairwise.map _ (fun _ _ different same => different (List.cons.inj same).2) (ih _)
    simp only [gaps]
    split
    · simp
    · split
      · simp
      · split
        · refine List.nodup_cons.2 ⟨?_, deeper⟩
          intro found
          obtain ⟨inner, missing, same⟩ := List.mem_map.1 found
          exact (mem_gaps missing).1 (List.cons.inj same).2
        · exact deeper

/-- Makes all directories of a path, as far as they can be made. -/
def makeDirectories (disk : Disk) (path : Path) : Except DiskFault Unit × Disk :=
  match disk.limits.check path with
  | .error fault => (.error fault, disk)
  | .ok () =>
    let made := gaps disk.entries path
    (made.2.elim (.ok ()) .error,
      { limits := disk.limits
        entries := disk.entries ++ made.1.map (·, .directory)
        distinct := by
          have keys : (made.1.map (·, File.directory)).map Prod.fst = made.1 := by
            simp [List.map_map, Function.comp_def]
          rw [List.map_append, keys, List.nodup_append]
          refine ⟨disk.distinct, nodup_gaps .., ?_⟩
          intro path present gap missing same
          obtain ⟨entry, stored, rfl⟩ := List.mem_map.1 present
          have absent := (mem_gaps missing).2
          rw [← same, List.lookup_eq_none_iff] at absent
          simpa using absent entry stored })

def createNew (disk : Disk) (path : Path) : Except DiskFault Disk := do
  match ← disk.locate path with
  | none => .ok (disk.set path (.file []))
  | some _ => .error .alreadyExists

/-- Gives an open file its content; one that is gone by now is not made again. -/
def fill (disk : Disk) (path : Path) (bytes : List UInt8) : Disk :=
  match disk.get? path with
  | some (.file _) => disk.set path (.file bytes)
  | _ => disk

def write (disk : Disk) (path : Path) (bytes : List UInt8) : Except DiskFault Disk := do
  match ← disk.locate path with
  | some .directory => .error .isADirectory
  | _ => .ok (disk.set path (.file bytes))

def rename (disk : Disk) (source target : Path) : Except DiskFault Disk := do
  match ← disk.locate source with
  | none => .error .notFound
  | some file =>
    match ← disk.locate target with
    | some .directory => .error .isADirectory
    | _ => .ok ((disk.erase source).set target file)

def remove (disk : Disk) (path : Path) : Except DiskFault Disk := do
  match ← disk.locate path with
  | none => .error .notFound
  | some .directory => .error .isADirectory
  | some (.file _) => .ok (disk.erase path)

def read (disk : Disk) (path : Path) : Except DiskFault (List UInt8) := do
  match ← disk.locate path with
  | none => .error .notFound
  | some .directory => .error .isADirectory
  | some (.file bytes) => .ok bytes

def list (disk : Disk) (path : Path) : Except DiskFault (List String) := do
  match ← disk.locate path with
  | none => .error .notFound
  | some (.file _) => .error .notADirectory
  | some .directory =>
    .ok (disk.entries.filterMap fun entry =>
      if entry.1.dropLast = path then entry.1.getLast? else none)

end Disk

end Scenario
