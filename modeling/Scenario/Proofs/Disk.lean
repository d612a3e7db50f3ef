import Mathlib.Data.List.Infix
import Mathlib.Data.List.Nodup
import Scenario.Disk.Basic
import Scenario.Proofs.Success
/-!
What the calls of a disk find and leave.

A path can be followed if its names can be held and only directories stand on the way to its last
name; then a call finds what stands at its end, and no call finds anything else. What a call leaves
is said path by path.
-/
namespace Scenario

namespace Disk

section Entries

theorem lookup_eq_some_iff_mem {α β : Type} [BEq α] [LawfulBEq α] {entries : List (α × β)}
    (distinct : (entries.map Prod.fst).Nodup) (key : α) (value : β) :
    entries.lookup key = some value ↔ (key, value) ∈ entries := by
  induction entries with
  | nil => simp
  | cons head rest ih =>
    obtain ⟨k, v⟩ := head
    rw [List.map_cons, List.nodup_cons] at distinct
    rw [List.lookup_cons, List.mem_cons]
    by_cases same : key = k
    · subst same
      have absent : (key, value) ∉ rest := by
        intro member
        exact distinct.1 (List.mem_map.mpr ⟨(key, value), member, rfl⟩)
      simp [absent, eq_comm]
    · have apart : (key == k) = false := beq_eq_false_iff_ne.mpr same
      simp [apart, same, ih distinct.2]

theorem mem_entries_iff (disk : Disk) (path : Path) (file : File) :
    (path, file) ∈ disk.entries ↔ disk.entries.lookup path = some file :=
  (lookup_eq_some_iff_mem disk.distinct path file).symm

theorem lookup_filter_ne (entries : List (Path × File)) (path other : Path) :
    (entries.filter fun entry => entry.1 ≠ path).lookup other =
      if other = path then none else entries.lookup other := by
  induction entries with
  | nil => simp
  | cons head rest ih =>
    obtain ⟨p, file⟩ := head
    by_cases kept : p = path
    · subst kept
      rw [List.filter_cons_of_neg (by simp), ih, List.lookup_cons]
      by_cases same : other = p
      · simp [same]
      · have apart : (other == p) = false := beq_eq_false_iff_ne.mpr same
        simp [same, apart]
    · rw [List.filter_cons_of_pos (by simpa using kept), List.lookup_cons, List.lookup_cons, ih]
      by_cases same : other = p
      · subst same
        simp [kept]
      · have apart : (other == p) = false := beq_eq_false_iff_ne.mpr same
        simp [apart]

@[simp] theorem lookup_erase (disk : Disk) (path other : Path) :
    (disk.erase path).entries.lookup other =
      if other = path then none else disk.entries.lookup other :=
  lookup_filter_ne disk.entries path other

@[simp] theorem lookup_set (disk : Disk) (path : Path) (file : File) (other : Path) :
    (disk.set path file).entries.lookup other =
      if other = path then some file else disk.entries.lookup other := by
  rw [set, List.lookup_append, lookup_erase, List.lookup_cons, List.lookup_nil]
  by_cases same : other = path
  · simp [same]
  · have apart : (other == path) = false := beq_eq_false_iff_ne.mpr same
    simp [same, apart]

theorem get?_of_ne {disk : Disk} {path : Path} (below : path ≠ []) :
    disk.get? path = disk.entries.lookup path :=
  if_neg below

theorem get?_erase (disk : Disk) {path : Path} (below : path ≠ []) (other : Path) :
    (disk.erase path).get? other = if other = path then none else disk.get? other := by
  by_cases start : other = []
  · simp [get?, start, below.symm]
  · rw [get?_of_ne start, get?_of_ne start, lookup_erase]

theorem get?_set (disk : Disk) {path : Path} (below : path ≠ []) (file : File) (other : Path) :
    (disk.set path file).get? other = if other = path then some file else disk.get? other := by
  by_cases start : other = []
  · simp [get?, start, below.symm]
  · rw [get?_of_ne start, get?_of_ne start, lookup_set]

end Entries

section Following

/-- What stands at a path within some entries; at its start it is what stands there itself. -/
def standing (here : Option File) (entries : List (Path × File)) (path : Path) : Option File :=
  if path = [] then here else entries.lookup path

theorem get?_eq_standing (disk : Disk) (path : Path) :
    disk.get? path = standing (some .directory) disk.entries path := rfl

theorem standing_below (name : String) (entries : List (Path × File)) (path : Path) :
    standing ((below name entries).lookup []) (below name entries) path =
      entries.lookup (name :: path) := by
  rw [standing, lookup_below, lookup_below]
  split
  · rename_i start
    rw [start]
  · rfl

theorem checkName_eq_ok_iff (name : String) :
    checkName name = .ok () ↔ name.utf8ByteSize ≤ longestName := by
  unfold checkName
  split <;> simp <;> omega

/-- A walk arrives exactly if it meets nothing but directories on its way. -/
theorem walk_eq_ok_iff (here : Option File) (entries : List (Path × File)) (path : Path)
    (found : Option File) :
    walk here entries path = .ok found ↔
      (∀ name ∈ path, name.utf8ByteSize ≤ longestName) ∧
        (∀ step, step <+: path → step ≠ path → standing here entries step = some .directory) ∧
        standing here entries path = found := by
  induction path generalizing here entries with
  | nil =>
    simp only [walk, standing]
    constructor
    · rintro ⟨⟩
      refine ⟨by simp, ?_, rfl⟩
      intro step before other
      exact absurd (List.prefix_nil.mp before) other
    · rintro ⟨-, -, rfl⟩
      rfl
  | cons name rest ih =>
    constructor
    · intro arrives
      cases here with
      | none => cases arrives
      | some file =>
        cases file with
        | file bytes => cases arrives
        | directory =>
          obtain ⟨short, onward⟩ := Success.unit_bind_iff.mp arrives
          obtain ⟨names, way, same⟩ := (ih _ _).mp onward
          rw [checkName_eq_ok_iff] at short
          refine ⟨List.forall_mem_cons.mpr ⟨short, names⟩, ?_, ?_⟩
          · intro step before other
            cases step with
            | nil => rfl
            | cons first later =>
              obtain ⟨rfl, further⟩ := List.cons_prefix_cons.mp before
              have short : later ≠ rest := fun same => other (by rw [same])
              rw [← way later further short, standing_below]
              rfl
          · rw [← same, standing_below]
            rfl
    · rintro ⟨names, way, same⟩
      have start : here = some .directory := way [] List.nil_prefix (by simp)
      rw [start]
      obtain ⟨short, names⟩ := List.forall_mem_cons.mp names
      refine Success.unit_bind_iff.mpr ⟨(checkName_eq_ok_iff name).mpr short, ?_⟩
      refine (ih _ _).mpr ⟨names, ?_, ?_⟩
      · intro step before other
        rw [standing_below]
        exact way (name :: step) (List.cons_prefix_cons.mpr ⟨rfl, before⟩) (by simpa using other)
      · rw [standing_below]
        exact same

end Following

end Disk

namespace PathLimits

variable {limits : PathLimits}

/-- The path can be written down, and each of its names can be held. -/
structure Holds (limits : PathLimits) (path : Path) : Prop where
  whole : limits.check path = .ok ()
  names : ∀ name ∈ path, name.utf8ByteSize ≤ Disk.longestName

theorem check_eq_ok_iff (path : Path) :
    limits.check path = .ok () ↔
      (∀ name ∈ path, '\x00' ∉ name.toList) ∧ limits.size path ≤ limits.longest := by
  unfold check
  by_cases zero : ∃ name ∈ path, '\x00' ∈ name.toList
  · have free : ¬ ∀ name ∈ path, '\x00' ∉ name.toList := by simpa using zero
    simp [zero, free]
  · have free : ∀ name ∈ path, '\x00' ∉ name.toList := by simpa using zero
    by_cases long : limits.longest < limits.size path
    · simp [zero, long, Nat.not_le.mpr long]
    · have short : limits.size path ≤ limits.longest := Nat.not_lt.mp long
      simp only [and_iff_left short, iff_true_right free]
      simp [zero, long]

theorem holds_iff (path : Path) : limits.Holds path ↔
    ((∀ name ∈ path, '\x00' ∉ name.toList) ∧ limits.size path ≤ limits.longest) ∧
      ∀ name ∈ path, name.utf8ByteSize ≤ Disk.longestName := by
  rw [← check_eq_ok_iff]
  exact ⟨fun holds => ⟨holds.whole, holds.names⟩, fun ⟨whole, names⟩ => ⟨whole, names⟩⟩

instance (limits : PathLimits) (path : Path) : Decidable (limits.Holds path) :=
  decidable_of_iff' _ (holds_iff path)

end PathLimits

namespace Disk

section Reaching

abbrev Holds (disk : Disk) (path : Path) : Prop := disk.limits.Holds path

/-- The path can be followed to its last name. -/
structure Reaches (disk : Disk) (path : Path) : Prop where
  holds : disk.Holds path
  way : ∀ step, step <+: path → step ≠ path → disk.get? step = some .directory

theorem locate_eq_ok_iff (disk : Disk) (path : Path) (found : Option File) :
    disk.locate path = .ok found ↔ disk.Reaches path ∧ disk.get? path = found := by
  rw [locate, Success.unit_bind_iff, walk_eq_ok_iff]
  constructor
  · rintro ⟨checked, names, way, same⟩
    exact ⟨⟨⟨checked, names⟩, way⟩, same⟩
  · rintro ⟨⟨⟨checked, names⟩, way⟩, same⟩
    exact ⟨checked, names, way, same⟩

theorem locate_of_reaches {disk : Disk} {path : Path} (reaches : disk.Reaches path) :
    disk.locate path = .ok (disk.get? path) :=
  (locate_eq_ok_iff disk path _).mpr ⟨reaches, rfl⟩

theorem locate_cases (disk : Disk) (path : Path) :
    (disk.Reaches path ∧ disk.locate path = .ok (disk.get? path)) ∨
      ¬ disk.Reaches path ∧ ∃ fault, disk.locate path = .error fault := by
  cases seen : disk.locate path with
  | ok found =>
    obtain ⟨reaches, same⟩ := (locate_eq_ok_iff disk path found).mp seen
    exact .inl ⟨reaches, by rw [same]⟩
  | error fault =>
    refine .inr ⟨?_, fault, rfl⟩
    intro reaches
    rw [locate_of_reaches reaches] at seen
    cases seen

/-- Where nothing is in the way but something may be missing, something is missing or the walk
arrives. -/
theorem walk_of_clear {here : Option File} {entries : List (Path × File)} {path : Path}
    (names : ∀ name ∈ path, name.utf8ByteSize ≤ longestName)
    (clear : ∀ step, step <+: path → step ≠ path →
      standing here entries step = none ∨ standing here entries step = some .directory) :
    walk here entries path = .error .notFound ∨
      walk here entries path = .ok (standing here entries path) := by
  induction path generalizing here entries with
  | nil => exact .inr rfl
  | cons name rest ih =>
    obtain ⟨short, names⟩ := List.forall_mem_cons.mp names
    have start : here = none ∨ here = some .directory := clear [] List.nil_prefix (by simp)
    rcases start with rfl | rfl
    · exact .inl rfl
    · have onward := @ih ((below name entries).lookup []) (below name entries) names (by
        intro step before other
        rw [standing_below]
        exact clear (name :: step) (List.cons_prefix_cons.mpr ⟨rfl, before⟩) (by simpa using other))
      simp only [walk, (checkName_eq_ok_iff name).mpr short, bind, Except.bind]
      rw [standing_below] at onward
      exact onward

/-- What is found at the end of a path depends on what stands on the way alone. -/
theorem walk_congr {here other : Option File} {entries others : List (Path × File)} {path : Path}
    (same : ∀ step, step <+: path → standing here entries step = standing other others step) :
    walk here entries path = walk other others path := by
  induction path generalizing here other entries others with
  | nil => exact congrArg Except.ok (same [] List.nil_prefix)
  | cons name rest ih =>
    have start : here = other := same [] List.nil_prefix
    subst start
    cases here with
    | none => rfl
    | some file =>
      cases file with
      | file bytes => rfl
      | directory =>
        have onward := @ih ((below name entries).lookup []) ((below name others).lookup [])
          (below name entries) (below name others) fun step before => by
            rw [standing_below, standing_below]
            exact same (name :: step) (List.cons_prefix_cons.mpr ⟨rfl, before⟩)
        rw [walk, walk, onward]

end Reaching

section Calls

theorem createNew_eq_ok_iff (disk left : Disk) (path : Path) :
    disk.createNew path = .ok left ↔
      disk.Reaches path ∧ disk.get? path = none ∧ left = disk.set path (.file []) := by
  rw [createNew, Success.bind_iff]
  constructor
  · rintro ⟨found, located, opened⟩
    obtain ⟨reaches, rfl⟩ := (locate_eq_ok_iff disk path found).mp located
    split at opened
    · rename_i absent
      cases opened
      exact ⟨reaches, absent, rfl⟩
    · cases opened
  · rintro ⟨reaches, absent, rfl⟩
    refine ⟨none, ?_, rfl⟩
    rw [locate_of_reaches reaches, absent]

theorem write_eq_ok_iff (disk left : Disk) (path : Path) (bytes : List UInt8) :
    disk.write path bytes = .ok left ↔ disk.Reaches path ∧ disk.get? path ≠ some .directory ∧
      left = disk.set path (.file bytes) := by
  rw [write, Success.bind_iff]
  constructor
  · rintro ⟨found, located, written⟩
    obtain ⟨reaches, rfl⟩ := (locate_eq_ok_iff disk path found).mp located
    split at written
    · cases written
    · rename_i plain
      cases written
      exact ⟨reaches, plain, rfl⟩
  · rintro ⟨reaches, plain, rfl⟩
    refine ⟨disk.get? path, locate_of_reaches reaches, ?_⟩
    split
    · rename_i stands
      exact absurd stands plain
    · rfl

theorem rename_eq_ok_iff (disk left : Disk) (source target : Path) :
    disk.rename source target = .ok left ↔ disk.Reaches source ∧ disk.Reaches target ∧
      disk.get? target ≠ some .directory ∧ ∃ file, disk.get? source = some file ∧
        left = (disk.erase source).set target file := by
  rw [rename, Success.bind_iff]
  constructor
  · rintro ⟨found, located, moved⟩
    obtain ⟨start, rfl⟩ := (locate_eq_ok_iff disk source found).mp located
    split at moved
    · cases moved
    · rename_i file stands
      obtain ⟨there, arrived, moved⟩ := Success.bind_iff.mp moved
      obtain ⟨finish, rfl⟩ := (locate_eq_ok_iff disk target there).mp arrived
      split at moved
      · cases moved
      · rename_i plain
        cases moved
        exact ⟨start, finish, plain, file, stands, rfl⟩
  · rintro ⟨start, finish, plain, file, stands, rfl⟩
    refine ⟨some file, ?_, ?_⟩
    · rw [locate_of_reaches start, stands]
    · refine Success.bind_iff.mpr ⟨disk.get? target, locate_of_reaches finish, ?_⟩
      split
      · rename_i directory
        exact absurd directory plain
      · rfl

theorem remove_eq_ok_iff (disk left : Disk) (path : Path) :
    disk.remove path = .ok left ↔ disk.Reaches path ∧
      (∃ bytes, disk.get? path = some (.file bytes)) ∧ left = disk.erase path := by
  rw [remove, Success.bind_iff]
  constructor
  · rintro ⟨found, located, removed⟩
    obtain ⟨reaches, rfl⟩ := (locate_eq_ok_iff disk path found).mp located
    split at removed
    · cases removed
    · cases removed
    · rename_i bytes stands
      cases removed
      exact ⟨reaches, ⟨bytes, stands⟩, rfl⟩
  · rintro ⟨reaches, ⟨bytes, stands⟩, rfl⟩
    refine ⟨some (.file bytes), ?_, rfl⟩
    rw [locate_of_reaches reaches, stands]

theorem read_eq_ok_iff (disk : Disk) (path : Path) (bytes : List UInt8) :
    disk.read path = .ok bytes ↔ disk.Reaches path ∧ disk.get? path = some (.file bytes) := by
  rw [read, Success.bind_iff]
  constructor
  · rintro ⟨found, located, done⟩
    obtain ⟨reaches, rfl⟩ := (locate_eq_ok_iff disk path found).mp located
    split at done
    · cases done
    · cases done
    · rename_i stands
      cases done
      exact ⟨reaches, stands⟩
  · rintro ⟨reaches, stands⟩
    refine ⟨some (.file bytes), ?_, rfl⟩
    rw [locate_of_reaches reaches, stands]

theorem read_of_rename {disk left : Disk} {source target : Path} {bytes : List UInt8}
    (stands : disk.get? source = some (.file bytes))
    (moved : disk.rename source target = .ok left) : left.read target = .ok bytes := by
  obtain ⟨-, reaches, plain, file, found, rfl⟩ := (rename_eq_ok_iff disk left _ _).mp moved
  cases stands.symm.trans found
  have below : target ≠ [] := by
    rintro rfl
    exact plain rfl
  have draftBelow : source ≠ [] := by
    rintro rfl
    cases stands
  rw [read_eq_ok_iff, get?_set _ below, if_pos rfl]
  refine ⟨⟨reaches.holds, fun step before other => ?_⟩, rfl⟩
  have directory := reaches.way step before other
  have apart : step ≠ source := by
    rintro rfl
    cases stands.symm.trans directory
  rw [get?_set _ below, if_neg other, get?_erase _ draftBelow, if_neg apart, directory]

end Calls

section Making

/-- Whatever of the directories of a path is not there can be made. -/
structure Opens (disk : Disk) (path : Path) : Prop where
  holds : disk.Holds path
  clear : ∀ step, step <+: path → disk.get? step = none ∨ disk.get? step = some .directory

/-- The directories of a path are there. -/
def Leads (disk : Disk) (path : Path) : Prop :=
  ∀ step, step <+: path → disk.get? step = some .directory

/-- Only what is in the way, or a name that cannot be held, keeps directories from being made. -/
theorem gaps_of_clear {entries : List (Path × File)} {path : Path}
    (names : ∀ name ∈ path, name.utf8ByteSize ≤ longestName)
    (clear : ∀ step, step <+: path → step ≠ [] →
      entries.lookup step = none ∨ entries.lookup step = some .directory) :
    (gaps entries path).2 = none := by
  induction path generalizing entries with
  | nil => rfl
  | cons name rest ih =>
    obtain ⟨short, names⟩ := List.forall_mem_cons.mp names
    have later : (gaps (below name entries) rest).2 = none := by
      apply ih names
      intro step before some
      rw [lookup_below]
      exact clear (name :: step) (List.cons_prefix_cons.mpr ⟨rfl, before⟩) (by simp)
    have start := clear [name] (by simp) (by simp)
    rw [← lookup_below] at start
    rw [gaps, if_neg (by omega)]
    dsimp only
    split
    · rename_i bytes stands
      rw [stands] at start
      simp at start
    · exact later

theorem onWay_iff (name : String) (rest step : Path) :
    step ≠ [] ∧ step <+: name :: rest ↔
      step = [name] ∨ ∃ later, step = name :: later ∧ later ≠ [] ∧ later <+: rest := by
  constructor
  · rintro ⟨some, before⟩
    cases step with
    | nil => exact absurd rfl some
    | cons head later =>
      obtain ⟨rfl, further⟩ := List.cons_prefix_cons.mp before
      by_cases final : later = []
      · exact .inl (by rw [final])
      · exact .inr ⟨later, rfl, final, further⟩
  · rintro (rfl | ⟨later, rfl, -, before⟩)
    · exact ⟨by simp, by simp⟩
    · exact ⟨by simp, List.cons_prefix_cons.mpr ⟨rfl, before⟩⟩

theorem mem_gaps_iff {entries : List (Path × File)} {path : Path}
    (free : (gaps entries path).2 = none) (gap : Path) :
    gap ∈ (gaps entries path).1 ↔ (gap ≠ [] ∧ gap <+: path) ∧ entries.lookup gap = none := by
  induction path generalizing entries gap with
  | nil =>
    simp only [gaps, List.not_mem_nil, false_iff]
    rintro ⟨⟨some, before⟩, -⟩
    exact some (List.prefix_nil.mp before)
  | cons name rest ih =>
    rw [gaps] at free ⊢
    split at free
    · cases free
    rename_i short
    rw [if_neg short]
    dsimp only at free ⊢
    split at free
    · cases free
    have inner : gap ∈ (gaps (below name entries) rest).1.map (name :: ·) ↔
        (∃ later, gap = name :: later ∧ later ≠ [] ∧ later <+: rest) ∧
          entries.lookup gap = none := by
      rw [List.mem_map]
      constructor
      · rintro ⟨later, missing, rfl⟩
        obtain ⟨behind, absent⟩ := (ih free later).mp missing
        exact ⟨⟨later, rfl, behind⟩, lookup_below name later entries ▸ absent⟩
      · rintro ⟨⟨later, rfl, behind⟩, absent⟩
        rw [← lookup_below] at absent
        exact ⟨later, (ih free later).mpr ⟨behind, absent⟩, rfl⟩
    have first : gap = [name] ∧ entries.lookup gap = none ↔
        gap = [name] ∧ (below name entries).lookup [] = none := by
      rw [lookup_below]
      exact and_congr_right fun same => by rw [same]
    rw [onWay_iff, or_and_right, ← inner, first]
    cases stands : (below name entries).lookup [] with
    | none => simp
    | some file => simp

theorem lookup_directories (paths : List Path) (other : Path) :
    (paths.map (·, File.directory)).lookup other =
      if other ∈ paths then some .directory else none := by
  induction paths with
  | nil => simp
  | cons path rest ih =>
    rw [List.map_cons, List.lookup_cons, ih]
    by_cases same : other = path
    · simp [same]
    · have apart : (other == path) = false := beq_eq_false_iff_ne.mpr same
      simp [apart, same]

/-- The directories of a path can be made exactly if the path can be held and nothing but
directories is in the way; then they are there, and all else is as before. -/
theorem makeDirectories_of_opens {disk : Disk} {path : Path} (opens : disk.Opens path) :
    (disk.makeDirectories path).1 = .ok () ∧
      ∀ other, (disk.makeDirectories path).2.get? other =
        if other <+: path then some .directory else disk.get? other := by
  have free : (gaps disk.entries path).2 = none := by
    apply gaps_of_clear opens.holds.names
    intro step before some
    have clear := opens.clear step before
    rwa [get?, if_neg some] at clear
  unfold makeDirectories
  rw [opens.holds.whole]
  refine ⟨by simp [free], ?_⟩
  intro other
  simp only [get?]
  by_cases start : other = []
  · simp [start]
  rw [if_neg start, if_neg start, List.lookup_append, lookup_directories]
  simp only [mem_gaps_iff free]
  by_cases before : other <+: path
  · rw [if_pos before]
    have clear := opens.clear other before
    rw [get?, if_neg start] at clear
    rcases clear with absent | present
    · simp [start, before, absent]
    · simp [present]
  · simp [before]

theorem makeDirectories_limits (disk : Disk) (path : Path) :
    (disk.makeDirectories path).2.limits = disk.limits := by
  unfold makeDirectories
  split <;> rfl

theorem makeDirectories_of_leads {disk : Disk} {path : Path} (opens : disk.Opens path)
    (leads : disk.Leads path) : disk.makeDirectories path = (.ok (), disk) := by
  have free := gaps_of_clear opens.holds.names fun step before some => by
    have clear := opens.clear step before
    rwa [get?_of_ne some] at clear
  have full : (gaps disk.entries path).1 = [] := by
    rw [List.eq_nil_iff_forall_not_mem]
    intro gap missing
    obtain ⟨⟨some, before⟩, absent⟩ := (mem_gaps_iff free gap).mp missing
    have present := leads gap before
    rw [get?_of_ne some, absent] at present
    cases present
  unfold makeDirectories
  rw [opens.holds.whole]
  simp [free, full]

end Making

section Children

/-- A path that ends in a directory that can be made can be followed, or something is missing. -/
theorem locate_child {disk : Disk} {path : Path} {file : String} (opens : disk.Opens path)
    (holds : disk.Holds (path ++ [file])) :
    disk.locate (path ++ [file]) = .error .notFound ∨
      disk.locate (path ++ [file]) = .ok (disk.get? (path ++ [file])) := by
  rw [locate, holds.whole]
  refine walk_of_clear holds.names ?_
  intro step before other
  rw [← get?_eq_standing]
  rcases List.prefix_concat_iff.mp before with same | shorter
  · exact absurd same other
  · exact opens.clear step shorter

theorem reaches_child {disk : Disk} {path : Path} {file : String} (leads : disk.Leads path)
    (holds : disk.Holds (path ++ [file])) : disk.Reaches (path ++ [file]) := by
  refine ⟨holds, ?_⟩
  intro step before other
  rcases List.prefix_concat_iff.mp before with same | shorter
  · exact absurd same other
  · exact leads step shorter

def children (disk : Disk) (path : Path) : List String :=
  disk.entries.filterMap fun entry => if entry.1.dropLast = path then entry.1.getLast? else none

theorem child_iff {entry path : Path} {file : String} :
    (if entry.dropLast = path then entry.getLast? else none) = some file ↔
      entry = path ++ [file] := by
  constructor
  · intro chosen
    split at chosen
    · rename_i parent
      rw [← parent, List.dropLast_append_getLast? file chosen]
    · cases chosen
  · rintro rfl
    simp

theorem mem_children_iff (disk : Disk) (path : Path) (file : String) :
    file ∈ disk.children path ↔ (disk.get? (path ++ [file])).isSome := by
  rw [get?_of_ne (by simp), children, List.mem_filterMap]
  constructor
  · rintro ⟨⟨place, found⟩, member, chosen⟩
    obtain rfl : place = path ++ [file] := child_iff.mp chosen
    rw [(mem_entries_iff disk _ found).mp member]
    rfl
  · intro present
    obtain ⟨found, stands⟩ := Option.isSome_iff_exists.mp present
    exact ⟨_, (mem_entries_iff disk _ found).mpr stands, child_iff.mpr rfl⟩

theorem nodup_children (disk : Disk) (path : Path) : (disk.children path).Nodup := by
  have listed : disk.children path = (disk.entries.map Prod.fst).filterMap fun entry =>
      if entry.dropLast = path then entry.getLast? else none := by
    rw [List.filterMap_map]
    rfl
  rw [listed]
  refine List.Nodup.filterMap ?_ disk.distinct
  intro entry other file first second
  rw [child_iff.mp first, child_iff.mp second]

/-- A directory that can be made is listed, unless it or one above it is not there. -/
theorem list_of_opens {disk : Disk} {path : Path} (opens : disk.Opens path) :
    disk.list path = .ok (disk.children path) ∨
      disk.list path = .error .notFound ∧ ¬ disk.Leads path := by
  cases located : disk.locate path with
  | ok found =>
    obtain ⟨reaches, same⟩ := (locate_eq_ok_iff disk path found).mp located
    rw [list, located]
    rcases opens.clear path List.prefix_rfl with absent | present
    · cases same.symm.trans absent
      refine .inr ⟨rfl, ?_⟩
      intro leads
      cases absent.symm.trans (leads path List.prefix_rfl)
    · cases same.symm.trans present
      exact .inl rfl
  | error fault =>
    have missing : disk.locate path = .error .notFound := by
      rw [locate, opens.holds.whole] at located ⊢
      rcases walk_of_clear opens.holds.names (fun step before _ => opens.clear step before) with
        lost | found
      · exact lost
      · cases located.symm.trans found
    refine .inr ⟨?_, ?_⟩
    · rw [list, missing]
      rfl
    · intro leads
      rw [locate_of_reaches ⟨opens.holds, fun step before _ => leads step before⟩] at located
      cases located

end Children

section Changes

/-- What stands at any other path is the same. -/
structure SameBut (path : Path) (disk left : Disk) : Prop where
  limits : left.limits = disk.limits
  stands : ∀ other, other ≠ path → left.get? other = disk.get? other

variable {path : Path} {disk left : Disk} {bytes : List UInt8}

theorem sameBut_set (disk : Disk) (path : Path) (file : File) :
    SameBut path disk (disk.set path file) :=
  ⟨rfl, fun other apart => by simp only [get?, lookup_set, if_neg apart]⟩

theorem sameBut_erase (disk : Disk) (path : Path) : SameBut path disk (disk.erase path) :=
  ⟨rfl, fun other apart => by simp only [get?, lookup_erase, if_neg apart]⟩

theorem SameBut.trans {later : Disk} (first : SameBut path disk left)
    (second : SameBut path left later) : SameBut path disk later :=
  ⟨second.limits.trans first.limits,
    fun other apart => (second.stands other apart).trans (first.stands other apart)⟩

theorem SameBut.holds_iff (same : SameBut path disk left) {other : Path} :
    left.Holds other ↔ disk.Holds other := by
  rw [Holds, same.limits]

theorem fill_of_stands (bytes : List UInt8) (below : path ≠ []) {before : List UInt8}
    (stands : disk.get? path = some (.file before)) :
    SameBut path disk (disk.fill path bytes) ∧
      (disk.fill path bytes).get? path = some (.file bytes) := by
  rw [fill, stands]
  exact ⟨sameBut_set disk path _, by rw [get?_set disk below, if_pos rfl]⟩

theorem sameBut_of_write (wrote : disk.write path bytes = .ok left) :
    SameBut path disk left ∧ left.get? path = some (.file bytes) := by
  obtain ⟨-, plain, rfl⟩ := (write_eq_ok_iff _ _ _ _).mp wrote
  have below : path ≠ [] := by
    rintro rfl
    exact plain rfl
  exact ⟨sameBut_set disk path _, by rw [get?_set disk below, if_pos rfl]⟩

theorem sameBut_of_remove (removed : disk.remove path = .ok left) :
    SameBut path disk left ∧ left.get? path = none := by
  obtain ⟨-, ⟨bytes, stands⟩, rfl⟩ := (remove_eq_ok_iff _ _ _).mp removed
  have below : path ≠ [] := by
    rintro rfl
    cases stands
  exact ⟨sameBut_erase disk path, by rw [get?_erase disk below, if_pos rfl]⟩

theorem sameBut_of_createNew (opened : disk.createNew path = .ok left) :
    disk.get? path = none ∧ SameBut path disk left ∧ left.get? path = some (.file []) := by
  obtain ⟨-, absent, rfl⟩ := (createNew_eq_ok_iff _ _ _).mp opened
  have below : path ≠ [] := by
    rintro rfl
    cases absent
  exact ⟨absent, sameBut_set disk path _, by rw [get?_set disk below, if_pos rfl]⟩

/-- A file that is moved is first gone from where it was, and then stands in its new place. -/
theorem sameBut_of_rename {source : Path} (moved : disk.rename source path = .ok left) :
    ∃ between, SameBut source disk between ∧ SameBut path between left ∧
      left.get? path = disk.get? source := by
  obtain ⟨-, -, plain, file, stands, rfl⟩ := (rename_eq_ok_iff _ _ _ _).mp moved
  have below : path ≠ [] := by
    rintro rfl
    exact plain rfl
  exact ⟨disk.erase source, sameBut_erase disk source, sameBut_set _ path _,
    by rw [get?_set _ below, if_pos rfl, stands]⟩

theorem not_prefix_parent {root : Path} {file : String} : ¬ root ++ [file] <+: root := by
  intro before
  have short := before.length_le
  rw [List.length_append, List.length_singleton] at short
  omega

theorem SameBut.opens {root : Path} {file : String} (same : SameBut (root ++ [file]) disk left)
    (opens : disk.Opens root) : left.Opens root := by
  refine ⟨same.holds_iff.mpr opens.holds, fun step before => ?_⟩
  rw [same.stands step]
  · exact opens.clear step before
  · rintro rfl
    exact not_prefix_parent before

theorem SameBut.leads {root : Path} {file : String} (same : SameBut (root ++ [file]) disk left)
    (leads : disk.Leads root) : left.Leads root := by
  intro step before
  rw [same.stands step]
  · exact leads step before
  · rintro rfl
    exact not_prefix_parent before

theorem locate_congr (limits : left.limits = disk.limits)
    (same : ∀ step, step <+: path → left.get? step = disk.get? step) :
    left.locate path = disk.locate path := by
  rw [locate, locate, limits]
  refine congrArg (disk.limits.check path >>= fun _ => ·) (walk_congr fun step before => ?_)
  rw [← get?_eq_standing, ← get?_eq_standing, same step before]

theorem SameBut.locate {root : Path} {file : String} (same : SameBut (root ++ [file]) disk left) :
    left.locate root = disk.locate root := by
  refine locate_congr same.limits fun step before => same.stands step ?_
  rintro rfl
  exact not_prefix_parent before

end Changes

end Disk

end Scenario
