import Scenario.Proofs.Collection.Files
import Scenario.Proofs.Run.Id
import Scenario.Proofs.Text
/-!
Where the files of names stand.

A path is written as a text. What is put behind the text of a directory stands in that directory if
it is one name: if no slash is in it, and it is neither empty nor a point. The files of flows, of
environments and of drafts have such names, so that whatever the text of its root, no name leads out
of a collection, no two names share a file, and no draft is taken for a flow.
-/
namespace Scenario

namespace Path

/-- The names of the pieces of a path, of which those that are empty or a point are none. -/
def names (pieces : List (List Char)) : List String :=
  (pieces.filter fun piece => piece ≠ [] && piece ≠ ['.']).map String.ofList

/-- Where a path starts whose first piece has others behind it. -/
def start (first : List Char) : String := if first = [] then "/" else String.ofList first

/-- The components of the pieces between the slashes. A slash at the start is the top, and a point
at the start is the directory where one is; both are components themselves. -/
def ofPieces : List (List Char) → Path
  | [] | [[]] => []
  | first :: later => start first :: names later

def ofText (text : String) : Path := ofPieces (Text.splitOn '/' text.toList)

/-- The text of what stands in a directory; a path from the top is not in it. -/
def join (directory file : String) : String :=
  if file.toList.head? = some '/' then file
  else if directory = "" ∨ directory.toList.getLast? = some '/' then directory ++ file
  else directory ++ "/" ++ file

/-- One name, which leads to no other directory. -/
structure Plain (file : String) : Prop where
  whole : '/' ∉ file.toList
  solid : file ≠ ""
  moves : file ≠ "." ∧ file ≠ ".."

theorem Plain.chars {file : String} (plain : Plain file) :
    file.toList ≠ [] ∧ file.toList ≠ ['.'] :=
  ⟨fun empty => plain.solid (String.toList_eq_nil_iff.mp empty),
    fun point => plain.moves.1 (String.toList_inj.mp (point.trans (by rfl)))⟩

theorem names_append (pieces later : List (List Char)) :
    names (pieces ++ later) = names pieces ++ names later := by
  rw [names, List.filter_append, List.map_append, names, names]

theorem Plain.names_eq {file : String} (plain : Plain file) : names [file.toList] = [file] := by
  simp [names, plain.chars]

theorem ofPieces_cons {first : List Char} {later : List (List Char)}
    (some : first ≠ [] ∨ later ≠ []) : ofPieces (first :: later) = start first :: names later := by
  unfold ofPieces
  split
  · rename_i none
    cases none
  · rename_i none
    cases none
    simp at some
  · rename_i same
    cases same
    rfl

theorem ofPieces_append {first : List Char} {later : List (List Char)}
    (some : first ≠ [] ∨ later ≠ []) {file : String} (plain : Plain file) :
    ofPieces (first :: later ++ [file.toList]) = ofPieces (first :: later) ++ [file] := by
  rw [List.cons_append, ofPieces_cons (.inr (by simp)), ofPieces_cons some, names_append,
    plain.names_eq, List.cons_append]

/-- What is put behind the text of a directory stands in the directory. -/
theorem ofText_join (directory : String) {file : String} (plain : Plain file) :
    ofText (join directory file) = ofText directory ++ [file] := by
  have relative : file.toList.head? ≠ some '/' := fun top => plain.whole (List.mem_of_head? top)
  have piece := Text.splitOn_of_free plain.whole
  rw [join, if_neg relative, ofText, ofText]
  split
  · rename_i closed
    rw [String.toList_append]
    rcases closed with rfl | slash
    · rw [String.toList_empty, List.nil_append, piece, ofPieces_cons (.inl plain.chars.1), start,
        if_neg plain.chars.1, String.ofList_toList]
      rfl
    · obtain ⟨front, ends⟩ := List.getLast?_eq_some_iff.mp slash
      rw [ends, List.append_assoc, List.singleton_append, Text.splitOn_append_separator,
        Text.splitOn_append_separator, piece]
      cases pieces : Text.splitOn '/' front with
      | nil => exact absurd pieces (Text.splitOn_ne_nil _ _)
      | cons first later =>
        have ended : later ++ Text.splitOn '/' [] ≠ [] := by simp [Text.splitOn]
        rw [List.cons_append, List.cons_append, ofPieces_cons (.inr (by simp)),
          ofPieces_cons (.inr ended), names_append, names_append, plain.names_eq]
        simp [names, Text.splitOn]
  · rename_i opens
    obtain ⟨solid, unclosed⟩ := not_or.mp opens
    rw [String.toList_append, String.toList_append, List.append_assoc]
    rw [show "/".toList ++ file.toList = '/' :: file.toList from rfl,
      Text.splitOn_append_separator, piece]
    cases pieces : Text.splitOn '/' directory.toList with
    | nil => exact absurd pieces (Text.splitOn_ne_nil _ _)
    | cons first later =>
      refine ofPieces_append (not_and_or.mp ?_) plain
      rintro ⟨rfl, rfl⟩
      exact solid (String.toList_eq_nil_iff.mp (Text.eq_nil_of_splitOn pieces))

end Path

namespace Collection

variable {collection : Collection} {name : String} {disk : Disk}

section Plain

theorem slash_not_mem_of_isName (valid : isName name = true) : '/' ∉ name.toList := by
  intro member
  have slash : name.toList.any (fun c => c == '/' || c == '\\') = true :=
    List.any_eq_true.mpr ⟨'/', member, rfl⟩
  rw [isName, slash] at valid
  simp at valid

theorem plain_append {front suffix : String} (whole : '/' ∉ front.toList)
    (free : '/' ∉ suffix.toList) (long : 2 < suffix.toList.length) :
    Path.Plain (front ++ suffix) := by
  have size : 2 < (front ++ suffix).toList.length := by
    rw [String.toList_append, List.length_append]
    omega
  have other (short : String) (fits : short.toList.length ≤ 2) : front ++ suffix ≠ short := by
    rintro same
    rw [same] at size
    omega
  constructor
  · rw [String.toList_append, List.mem_append, not_or]
    exact ⟨whole, free⟩
  · exact other "" (by decide)
  · exact ⟨other "." (by decide), other ".." (by decide)⟩

theorem plain_flow (valid : isName name = true) : Path.Plain (name ++ flowSuffix) :=
  plain_append (slash_not_mem_of_isName valid) (by decide) (by decide)

theorem plain_environment (valid : isName name = true) : Path.Plain (name ++ ".env") :=
  plain_append (slash_not_mem_of_isName valid) (by decide) (by decide)

theorem plain_draft (valid : isName name = true) (id : RunId) :
    Path.Plain (draftName name id) := by
  refine plain_append ?_ (by decide) (by decide)
  simp only [String.toList_append, List.mem_append, not_or]
  exact ⟨⟨⟨by decide, slash_not_mem_of_isName valid, by decide⟩, by decide⟩,
    id.slash_not_mem_text⟩

end Plain

/-- A path leads to a file in a directory, and by no other way than the directory itself. -/
structure Below (directory path : Path) (file : String) : Prop where
  parent : path.dropLast = directory
  last : path.getLast? = some file
  straight : ∀ component ∈ path, component = "." ∨ component = ".." → component ∈ directory

theorem below_append (directory : Path) {file : String} (plain : Path.Plain file) :
    Below directory (directory ++ [file]) file := by
  refine ⟨by simp, by simp, fun component member moves => ?_⟩
  rcases List.mem_append.mp member with inside | last
  · exact inside
  · cases List.mem_singleton.mp last
    rcases moves with here | above
    · exact absurd here plain.moves.1
    · exact absurd above plain.moves.2

theorem children_set (disk : Disk) (directory : Path) (file : String) (kind : File) :
    (disk.set (directory ++ [file]) kind).children directory =
      (disk.erase (directory ++ [file])).children directory ++ [file] := by
  simp [Disk.children, Disk.set, List.filterMap_append]

theorem list_congr {disk other : Disk}
    (same : (disk.list collection.root).map (List.filterMap flowName?) =
      (other.list collection.root).map (List.filterMap flowName?)) :
    (collection.list.run disk).1 = (collection.list.run other).1 := by
  cases found : disk.list collection.root with
  | ok files =>
    cases there : other.list collection.root with
    | ok others =>
      rw [found, there] at same
      have names := Except.ok.inj same
      simp [list, FileTask.run_bind, Call.run, found, there, names]
    | error fault =>
      rw [found, there] at same
      cases same
  | error fault =>
    cases there : other.list collection.root with
    | ok others =>
      rw [found, there] at same
      cases same
    | error fault =>
      rw [found, there] at same
      cases same
      cases fault <;> simp [list, FileTask.run_bind, Call.run, found, there]

theorem list_set_of_stranger {file : String} (stranger : flowName? file = none) (disk : Disk)
    (kind : File) :
    (collection.list.run (disk.set (collection.root ++ [file]) kind)).1 =
      (collection.list.run (disk.erase (collection.root ++ [file]))).1 := by
  have located : (disk.set (collection.root ++ [file]) kind).locate collection.root =
      (disk.erase (collection.root ++ [file])).locate collection.root :=
    (Disk.sameBut_set disk _ kind).locate.trans (Disk.sameBut_erase disk _).locate.symm
  -- The two disks differ in one entry of the directory, which is dropped with all other strangers.
  refine list_congr ?_
  rw [Disk.list, Disk.list, located]
  cases (disk.erase (collection.root ++ [file])).locate collection.root with
  | error fault => rfl
  | ok found =>
    rcases found with _ | _ | _
    · rfl
    · rfl
    · have children := congrArg (List.filterMap flowName?)
        (children_set disk collection.root file kind)
      rw [List.filterMap_append, List.filterMap_cons_none stranger, List.filterMap_nil,
        List.append_nil] at children
      exact congrArg Except.ok children

theorem flowName?_draftName (name : String) (id : RunId) : flowName? (draftName name id) = none := by
  cases read : flowName? (draftName name id) with
  | none => rfl
  | some other =>
    exact absurd ((flowName?_eq_some_iff _ other).mp read).2 (draftName_ne name id other)

theorem environmentPath_eq_ok_iff {root path : Path} : environmentPath root name = .ok path ↔
    isName name = true ∧ path = root ++ ["environments"] ++ [name ++ ".env"] := by
  cases valid : isName name with
  | false => simp [environmentPath, Scenario.checkName, valid, bind, Except.bind]
  | true =>
    simp [environmentPath, Scenario.checkName, valid, bind, Except.bind, pure, Except.pure, eq_comm]

theorem flow_ne_environment (name other : String) : name ++ flowSuffix ≠ other ++ ".env" := by
  intro same
  have ends := congrArg (fun s => s.toList.reverse.head?) same
  simp [flowSuffix] at ends

theorem plain_environments : Path.Plain "environments" := ⟨by decide, by decide, by decide⟩

/-- Whatever the text of its root and whatever the name, what a name leads to stands in the directory
of the collection or in that of its environments; no two names, no flow and environment and no flow
and draft lead to the same, and drafts are not listed. -/
theorem names_stay_inside (root : String) (registry : Registry) :
    let collection : Collection := ⟨Path.ofText root, registry⟩
    (∀ name path, collection.flowPath name = .ok path →
      path = Path.ofText (Path.join root (name ++ ".flow")) ∧
        Below collection.root path (name ++ ".flow")) ∧
    (∀ name path, environmentPath collection.root name = .ok path →
      path = Path.ofText (Path.join (Path.join root "environments") (name ++ ".env")) ∧
        Below (collection.root ++ ["environments"]) path (name ++ ".env")) ∧
    (∀ name other path, collection.flowPath name = .ok path →
      collection.flowPath other = .ok path → name = other) ∧
    (∀ name other path, environmentPath collection.root name = .ok path →
      environmentPath collection.root other = .ok path → name = other) ∧
    (∀ name other path, collection.flowPath name = .ok path →
      environmentPath collection.root other ≠ .ok path) ∧
    ∀ name path id, collection.flowPath name = .ok path →
      draft path id = Path.ofText (Path.join root (draftName name id)) ∧
      Below collection.root (draft path id) (draftName name id) ∧
      (∀ other, collection.flowPath other ≠ .ok (draft path id)) ∧
      ∀ (disk : Disk) (kind : File), (collection.list.run (disk.set (draft path id) kind)).1 =
        (collection.list.run (disk.erase (draft path id))).1 := by
  intro collection
  refine ⟨?_, ?_, ?_, ?_, ?_, ?_⟩
  · intro name path named
    obtain ⟨valid, rfl⟩ := flowPath_eq_ok_iff.mp named
    exact ⟨(Path.ofText_join root (plain_flow valid)).symm, below_append _ (plain_flow valid)⟩
  · intro name path named
    obtain ⟨valid, rfl⟩ := environmentPath_eq_ok_iff.mp named
    refine ⟨?_, below_append _ (plain_environment valid)⟩
    rw [Path.ofText_join _ (plain_environment valid), Path.ofText_join root plain_environments]
  · intro name other path first second
    obtain ⟨-, rfl⟩ := flowPath_eq_ok_iff.mp first
    exact place_inj.mp (flowPath_eq_ok_iff.mp second).2
  · intro name other path first second
    obtain ⟨-, rfl⟩ := environmentPath_eq_ok_iff.mp first
    simpa using (environmentPath_eq_ok_iff.mp second).2
  · intro name other path first second
    obtain ⟨-, rfl⟩ := flowPath_eq_ok_iff.mp first
    have shared := congrArg List.getLast? (environmentPath_eq_ok_iff.mp second).2
    rw [place, List.getLast?_concat, List.getLast?_concat] at shared
    exact flow_ne_environment name other (Option.some.inj shared)
  · intro name path id named
    obtain ⟨valid, rfl⟩ := flowPath_eq_ok_iff.mp named
    rw [draft_place]
    refine ⟨(Path.ofText_join root (plain_draft valid id)).symm,
      below_append _ (plain_draft valid id), ?_, ?_⟩
    · intro other taken
      have shared := (flowPath_eq_ok_iff.mp taken).2
      rw [place, List.append_cancel_left_eq] at shared
      exact draftName_ne name id other (List.cons.inj shared).1
    · exact list_set_of_stranger (flowName?_draftName name id)

theorem login_stays_inside :
    let collection : Collection := ⟨Path.ofText "./flows/", .standard⟩
    collection.flowPath "login.v2" = .ok [".", "flows", "login.v2.flow"] ∧
      [".", "flows", "login.v2.flow"] = Path.ofText (Path.join "./flows/" "login.v2.flow") ∧
      Below [".", "flows"] [".", "flows", "login.v2.flow"] "login.v2.flow" := by
  have named : (⟨Path.ofText "./flows/", .standard⟩ : Collection).flowPath "login.v2" =
      .ok [".", "flows", "login.v2.flow"] := by decide +kernel
  obtain ⟨placed, below⟩ := (names_stay_inside "./flows/" .standard).1 _ _ named
  exact ⟨named, placed, below⟩

end Collection

end Scenario
