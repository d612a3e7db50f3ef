import Scenario.Proofs.Bytes.Text
import Scenario.Proofs.Dict
import Scenario.Proofs.FileTask
/-!
The files of a collection.

The flow files below the root of a collection are a map from names to texts: the file of a name is
its entry. What else stands there is left as it is, and of the places for drafts it is asked only
that none of them is a directory. The operations are described by the map they find and the map
they leave, for every name; one that fails leaves the map as it was.
-/
namespace Scenario

section Names

theorem ne_empty_of_isName {name : String} (valid : isName name = true) : name ≠ "" := by
  rintro rfl
  revert valid
  decide

theorem flowName?_eq_some_iff (file name : String) :
    flowName? file = some name ↔ name ≠ "" ∧ file = name ++ flowSuffix := by
  have cut (stem : List Char) : flowSuffix.toList.isSuffixOf? file.toList = some stem ↔
      String.ofList stem ++ flowSuffix = file := by
    rw [List.isSuffixOf?_eq_some_iff_append_eq, ← String.toList_inj, String.toList_append,
      String.toList_ofList]
  constructor
  · intro read
    unfold flowName? at read
    split at read
    · rename_i c rest stem
      cases read
      exact ⟨by simp [← String.toList_inj], ((cut _).mp stem).symm⟩
    · cases read
  · rintro ⟨solid, rfl⟩
    have stem := (cut name.toList).mpr (by rw [String.ofList_toList])
    unfold flowName?
    rw [stem]
    cases chars : name.toList with
    | nil => exact absurd (String.toList_eq_nil_iff.mp chars) solid
    | cons c rest => simp [← chars]

end Names

namespace Collection

variable {collection : Collection} {disk : Disk} {texts : Dict String} {name : String}

section Places

def place (collection : Collection) (name : String) : Path :=
  collection.root ++ [name ++ flowSuffix]

theorem flowPath_of_isName (valid : isName name = true) :
    collection.flowPath name = .ok (collection.place name) := by
  simp [flowPath, Scenario.checkName, valid, place, bind, Except.bind, pure, Except.pure]

theorem flowPath_of_not_isName (invalid : isName name = false) :
    collection.flowPath name = .error (.invalidName name) := by
  simp [flowPath, Scenario.checkName, invalid, bind, Except.bind]

theorem flowPath_eq_ok_iff {path : Path} :
    collection.flowPath name = .ok path ↔ isName name = true ∧ path = collection.place name := by
  cases valid : isName name with
  | false => simp [flowPath_of_not_isName valid]
  | true => simp [flowPath_of_isName valid, eq_comm]

theorem place_inj {other : String} :
    collection.place name = collection.place other ↔ name = other := by
  simp [place]

def draftName (name : String) (id : RunId) : String :=
  "." ++ (name ++ flowSuffix) ++ "." ++ id.text ++ ".tmp"

theorem draft_place (id : RunId) :
    draft (collection.place name) id = collection.root ++ [draftName name id] := by
  simp [draft, place, draftName]

theorem reaches_draft {id : RunId} (leads : disk.Leads collection.root)
    (holds : disk.Holds (draft (collection.place name) id)) :
    disk.Reaches (draft (collection.place name) id) := by
  rw [draft_place] at holds ⊢
  exact Disk.reaches_child leads holds

theorem draftName_ne (name : String) (id : RunId) (other : String) :
    draftName name id ≠ other ++ flowSuffix := by
  intro same
  have ends := congrArg (fun s => s.toList.reverse.head?) same
  simp [draftName, flowSuffix] at ends

end Places

/-- The flow files of a collection are those of a map from names to texts. -/
structure Contains (collection : Collection) (disk : Disk) (texts : Dict String) : Prop where
  opens : disk.Opens collection.root
  leads : ∀ name, (texts.get? name).isSome → disk.Leads collection.root
  files : ∀ name, name ≠ "" → disk.get? (collection.place name) =
    (texts.get? name).map fun text => .file (bytesOf text.toList)
  names : ∀ name, (texts.get? name).isSome → isName name = true ∧
    disk.Holds (collection.place name)
  drafts : ∀ name id, disk.get? (draft (collection.place name) id) ≠ some .directory

namespace Contains

theorem get?_place (contains : collection.Contains disk texts) (valid : isName name = true) :
    disk.get? (collection.place name) =
      (texts.get? name).map fun text => .file (bytesOf text.toList) :=
  contains.files name (ne_empty_of_isName valid)

theorem place_ne_directory (contains : collection.Contains disk texts)
    (valid : isName name = true) : disk.get? (collection.place name) ≠ some .directory := by
  rw [contains.get?_place valid]
  cases texts.get? name <;> simp

section Changes

variable {left : Disk} {file : String}

theorem drafts_of_same (contains : collection.Contains disk texts)
    (same : Disk.SameBut (collection.root ++ [file]) disk left)
    (plain : left.get? (collection.root ++ [file]) ≠ some .directory) (name : String)
    (id : RunId) : left.get? (draft (collection.place name) id) ≠ some .directory := by
  by_cases here : draft (collection.place name) id = collection.root ++ [file]
  · rwa [here]
  · rw [same.stands _ here]
    exact contains.drafts name id

theorem beside (contains : collection.Contains disk texts)
    (same : Disk.SameBut (collection.root ++ [file]) disk left)
    (plain : left.get? (collection.root ++ [file]) ≠ some .directory)
    (apart : ∀ name, file ≠ name ++ flowSuffix) : collection.Contains left texts where
  opens := same.opens contains.opens
  leads name present := same.leads (contains.leads name present)
  files name solid := by
    rw [same.stands, contains.files name solid]
    simpa [place] using (apart name).symm
  names name present := (contains.names name present).imp_right same.holds_iff.mpr
  drafts := contains.drafts_of_same same plain

theorem stored (contains : collection.Contains disk texts) (leads : disk.Leads collection.root)
    (valid : isName name = true) (holds : disk.Holds (collection.place name)) {text : String}
    (same : Disk.SameBut (collection.place name) disk left)
    (written : left.get? (collection.place name) = some (.file (bytesOf text.toList))) :
    collection.Contains left (texts.insert name text) where
  opens := same.opens contains.opens
  leads _ _ := same.leads leads
  files other solid := by
    rw [Dict.get?_insert]
    by_cases asked : name = other
    · subst asked
      rw [if_pos rfl, written]
      rfl
    · rw [if_neg asked, same.stands, contains.files other solid]
      exact fun equal => asked (place_inj.mp equal).symm
  names other present := by
    rw [Dict.get?_insert] at present
    by_cases asked : name = other
    · subst asked
      exact ⟨valid, same.holds_iff.mpr holds⟩
    · rw [if_neg asked] at present
      exact (contains.names other present).imp_right same.holds_iff.mpr
  drafts := contains.drafts_of_same same (by
    rw [← place, written]
    simp)

theorem erased (contains : collection.Contains disk texts)
    (same : Disk.SameBut (collection.place name) disk left)
    (gone : left.get? (collection.place name) = none) :
    collection.Contains left (texts.erase name) where
  opens := same.opens contains.opens
  leads other present := by
    rw [Dict.get?_erase] at present
    split at present
    · cases present
    · exact same.leads (contains.leads other present)
  files other solid := by
    rw [Dict.get?_erase]
    by_cases asked : other = name
    · subst asked
      rw [if_pos rfl, gone]
      rfl
    · rw [if_neg asked, same.stands, contains.files other solid]
      exact fun equal => asked (place_inj.mp equal)
  names other present := by
    rw [Dict.get?_erase] at present
    split at present
    · cases present
    · exact (contains.names other present).imp_right same.holds_iff.mpr
  drafts := contains.drafts_of_same same (by
    rw [← place, gone]
    simp)

theorem made (contains : collection.Contains disk texts) :
    ∃ made, disk.makeDirectories collection.root = (.ok (), made) ∧
      made.limits = disk.limits ∧ made.Leads collection.root ∧ collection.Contains made texts := by
  obtain ⟨done, all⟩ := Disk.makeDirectories_of_opens contains.opens
  have limits := disk.makeDirectories_limits collection.root
  have leads : (disk.makeDirectories collection.root).2.Leads collection.root := by
    intro step before
    rw [all, if_pos before]
  have held {path : Path} (holds : disk.Holds path) :
      (disk.makeDirectories collection.root).2.Holds path := by
    rwa [Disk.Holds, limits]
  refine ⟨_, Prod.ext done rfl, limits, leads, ?_⟩
  constructor
  · exact ⟨held contains.opens.holds, fun step before => .inr (leads step before)⟩
  · exact fun _ _ => leads
  · intro name solid
    rw [all, place, if_neg Disk.not_prefix_parent]
    exact contains.files name solid
  · exact fun name present => (contains.names name present).imp_right held
  · intro name id
    rw [all, draft_place, if_neg Disk.not_prefix_parent, ← draft_place]
    exact contains.drafts name id

end Changes

end Contains

section Operations

variable {flow : Option Flow} {text : String}

theorem create_of_not_isName (invalid : isName name = false) (disk : Disk) :
    (collection.create name flow).run disk = (.error (.invalidName name), disk) := by
  rw [create, flowPath_of_not_isName invalid]
  exact FileTask.run_bind_of_error rfl _

theorem create_of_made {made : Disk} (valid : isName name = true)
    (written : collection.registry.write flow = .ok text)
    (makes : disk.makeDirectories collection.root = (.ok (), made)) :
    (collection.create name flow).run disk =
      match made.createNew (collection.place name) with
      | .ok opened => (.ok (collection.place name),
          opened.fill (collection.place name) (bytesOf text.toList))
      | .error fault => (.error (.disk fault), made) := by
  cases opened : made.createNew (collection.place name) <;>
    simp [create, FileTask.run_bind, flowPath_of_isName valid, written, Call.run, makes, opened,
      Call.change, Except.mapError]

theorem create_new (contains : collection.Contains disk texts) (valid : isName name = true)
    (holds : disk.Holds (collection.place name))
    (written : collection.registry.write flow = .ok text) (absent : texts.get? name = none) :
    ∃ left, (collection.create name flow).run disk = (.ok (collection.place name), left) ∧
      collection.Contains left (texts.insert name text) := by
  obtain ⟨made, makes, limits, leads, contains⟩ := contains.made
  rw [Disk.Holds, ← limits] at holds
  have opened : made.createNew (collection.place name) =
      .ok (made.set (collection.place name) (.file [])) := by
    rw [Disk.createNew_eq_ok_iff, contains.get?_place valid, absent]
    exact ⟨Disk.reaches_child leads holds, rfl, rfl⟩
  have below : collection.place name ≠ [] := by simp [place]
  have filled : (made.set (collection.place name) (.file [])).fill (collection.place name)
      (bytesOf text.toList) = (made.set (collection.place name) (.file [])).set
        (collection.place name) (.file (bytesOf text.toList)) := by
    rw [Disk.fill, Disk.get?_set made below, if_pos rfl]
  rw [create_of_made valid written makes, opened]
  refine ⟨_, rfl, contains.stored leads valid holds ?_ ?_⟩
  · rw [filled]
    exact (Disk.sameBut_set made _ _).trans (Disk.sameBut_set _ _ _)
  · rw [filled, Disk.get?_set _ below, if_pos rfl]

theorem create_present (contains : collection.Contains disk texts)
    (written : collection.registry.write flow = .ok text) (present : (texts.get? name).isSome) :
    (collection.create name flow).run disk = (.error (.disk .alreadyExists), disk) := by
  obtain ⟨valid, holds⟩ := contains.names name present
  obtain ⟨stored, found⟩ := Option.isSome_iff_exists.mp present
  have leads := contains.leads name present
  have located : disk.locate (collection.place name) =
      .ok (some (.file (bytesOf stored.toList))) := by
    have reaches : disk.Reaches (collection.place name) := Disk.reaches_child leads holds
    rw [Disk.locate_of_reaches reaches, contains.get?_place valid, found]
    rfl
  have opened : disk.createNew (collection.place name) = .error .alreadyExists := by
    rw [Disk.createNew, located]
    rfl
  rw [create_of_made valid written (Disk.makeDirectories_of_leads contains.opens leads), opened]

theorem create_unheld (contains : collection.Contains disk texts) (valid : isName name = true)
    (unheld : ¬ disk.Holds (collection.place name))
    (written : collection.registry.write flow = .ok text) :
    ∃ fault left, (collection.create name flow).run disk = (.error (.disk fault), left) ∧
      collection.Contains left texts := by
  obtain ⟨made, makes, limits, -, contains⟩ := contains.made
  rw [Disk.Holds, ← limits] at unheld
  rw [create_of_made valid written makes]
  rcases Disk.locate_cases made (collection.place name) with ⟨reaches, -⟩ | ⟨-, fault, lost⟩
  · exact absurd reaches.holds unheld
  · have opened : made.createNew (collection.place name) = .error fault := by
      rw [Disk.createNew, lost]
      rfl
    rw [opened]
    exact ⟨fault, made, rfl, contains⟩

theorem update_of_not_isName {flow : Flow} (invalid : isName name = false) (id : RunId)
    (disk : Disk) :
    (collection.update name flow id).run disk = (.error (.invalidName name), disk) := by
  rw [update, flowPath_of_not_isName invalid]
  exact FileTask.run_bind_of_error rfl _

/-- A file is put in its place, or all that is left of the attempt is a draft. -/
theorem replaceFile_cases (disk : Disk) (path : Path) (bytes : List UInt8) (id : RunId) :
    (∃ drafted left, disk.write (draft path id) bytes = .ok drafted ∧
      drafted.rename (draft path id) path = .ok left ∧
      (replaceFile path bytes id).run disk = (.ok (), left)) ∨
    ∃ fault before left, (disk.write (draft path id) bytes = .error fault ∧ before = disk ∨
        disk.write (draft path id) bytes = .ok before ∧
          before.rename (draft path id) path = .error fault) ∧
      (left = before ∨ left = before.erase (draft path id)) ∧
      (replaceFile path bytes id).run disk = (.error (.disk fault), left) := by
  have cleared (before : Disk) :
      ((Call.remove (draft path id)).run before).2 = before ∨
        ((Call.remove (draft path id)).run before).2 = before.erase (draft path id) := by
    rw [Call.run]
    cases removed : before.remove (draft path id) with
    | error fault => exact .inl rfl
    | ok left => exact .inr ((Disk.remove_eq_ok_iff before left _).mp removed).2.2
  cases wrote : disk.write (draft path id) bytes with
  | error fault =>
    refine .inr ⟨fault, disk, _, .inl ⟨rfl, rfl⟩, cleared disk, ?_⟩
    simp [replaceFile, FileTask.run_bind, Call.run, Call.change, wrote]
  | ok drafted =>
    cases moved : drafted.rename (draft path id) path with
    | error fault =>
      refine .inr ⟨fault, drafted, _, .inr ⟨rfl, moved⟩, cleared drafted, ?_⟩
      simp [replaceFile, FileTask.run_bind, Call.run, Call.change, wrote, moved]
    | ok left =>
      refine .inl ⟨drafted, left, rfl, moved, ?_⟩
      simp [replaceFile, FileTask.run_bind, Call.run, Call.change, wrote, moved]

theorem update_of_made {flow : Flow} {made : Disk} (valid : isName name = true)
    (written : collection.registry.write (some flow) = .ok text)
    (makes : disk.makeDirectories collection.root = (.ok (), made)) (id : RunId) :
    (collection.update name flow id).run disk =
      match (replaceFile (collection.place name) (bytesOf text.toList) id).run made with
      | (.ok (), left) => (.ok (collection.place name), left)
      | (.error e, left) => (.error e, left) := by
  rcases replaced : (replaceFile (collection.place name) (bytesOf text.toList) id).run made with
    ⟨result, left⟩
  cases result <;>
    simp [update, FileTask.run_bind, flowPath_of_isName valid, written, Call.run, makes, replaced,
      Except.mapError]

theorem Contains.drafted (contains : collection.Contains disk texts)
    (leads : disk.Leads collection.root) {drafted : Disk} {bytes : List UInt8} {id : RunId}
    (wrote : disk.write (draft (collection.place name) id) bytes = .ok drafted) :
    collection.Contains drafted texts ∧ drafted.Leads collection.root ∧
      drafted.get? (draft (collection.place name) id) = some (.file bytes) := by
  rw [draft_place] at wrote ⊢
  obtain ⟨same, stands⟩ := Disk.sameBut_of_write wrote
  refine ⟨contains.beside same ?_ (draftName_ne name id), same.leads leads, stands⟩
  simp [stands]

theorem Contains.undrafted (contains : collection.Contains disk texts) (name : String)
    (id : RunId) : collection.Contains (disk.erase (draft (collection.place name) id)) texts := by
  rw [draft_place]
  have below : collection.root ++ [draftName name id] ≠ [] := by simp
  refine contains.beside (disk.sameBut_erase _) ?_ (draftName_ne name id)
  simp [Disk.get?_erase disk below]

theorem Contains.moved (contains : collection.Contains disk texts)
    (leads : disk.Leads collection.root) (valid : isName name = true) {left : Disk} {id : RunId}
    (stands : disk.get? (draft (collection.place name) id) =
      some (.file (bytesOf text.toList)))
    (moved : disk.rename (draft (collection.place name) id) (collection.place name) = .ok left) :
    disk.Holds (collection.place name) ∧ collection.Contains left (texts.insert name text) := by
  obtain ⟨-, reaches, -, file, found, rfl⟩ := (Disk.rename_eq_ok_iff disk left _ _).mp moved
  cases stands.symm.trans found
  have below : collection.place name ≠ [] := by simp [place]
  have leads : (disk.erase (draft (collection.place name) id)).Leads collection.root := by
    rw [draft_place]
    exact (disk.sameBut_erase _).leads leads
  refine ⟨reaches.holds, (contains.undrafted name id).stored leads valid reaches.holds
    (Disk.sameBut_set _ _ _) ?_⟩
  rw [Disk.get?_set _ below, if_pos rfl]

/-- A flow is saved exactly if its place and that of its draft can be held. -/
theorem update_cases (contains : collection.Contains disk texts) (valid : isName name = true)
    {flow : Flow} (id : RunId) (written : collection.registry.write (some flow) = .ok text) :
    ∃ left, (disk.Holds (collection.place name) ∧
        disk.Holds (draft (collection.place name) id) ∧
        (collection.update name flow id).run disk = (.ok (collection.place name), left) ∧
        collection.Contains left (texts.insert name text)) ∨
      (¬ (disk.Holds (collection.place name) ∧
          disk.Holds (draft (collection.place name) id)) ∧
        (∃ fault, (collection.update name flow id).run disk = (.error (.disk fault), left)) ∧
        collection.Contains left texts) := by
  obtain ⟨made, makes, limits, leads, contains⟩ := contains.made
  rw [update_of_made valid written makes]
  simp only [Disk.Holds, ← limits]
  rcases replaceFile_cases made (collection.place name) (bytesOf text.toList) id with
    ⟨drafted, left, wrote, moved, ran⟩ | ⟨fault, before, left, failed, cleared, ran⟩
  · rw [ran]
    obtain ⟨reaches, -, -⟩ := (Disk.write_eq_ok_iff made drafted _ _).mp wrote
    obtain ⟨contains, leads, stands⟩ := contains.drafted leads wrote
    obtain ⟨holds, saved⟩ := contains.moved leads valid stands moved
    have held := (Disk.sameBut_of_write wrote).1.holds_iff.mp holds
    exact ⟨left, .inl ⟨held, reaches.holds, rfl, saved⟩⟩
  · rw [ran]
    have kept : collection.Contains before texts := by
      rcases failed with ⟨-, rfl⟩ | ⟨wrote, -⟩
      · exact contains
      · exact (contains.drafted leads wrote).1
    refine ⟨left, .inr ⟨?_, ⟨fault, rfl⟩, ?_⟩⟩
    · rintro ⟨holds, draftHolds⟩
      rcases failed with ⟨failed, -⟩ | ⟨wrote, failed⟩
      · have writes := (Disk.write_eq_ok_iff made _ _ (bytesOf text.toList)).mpr
          ⟨reaches_draft leads draftHolds, contains.drafts name id, rfl⟩
        cases failed.symm.trans writes
      · obtain ⟨contains, leads, stands⟩ := contains.drafted leads wrote
        have still {path : Path} : before.Holds path ↔ made.Holds path :=
          (Disk.sameBut_of_write wrote).1.holds_iff
        have moves := (Disk.rename_eq_ok_iff before _ _ _).mpr
          ⟨reaches_draft leads (still.mpr draftHolds),
            Disk.reaches_child leads (still.mpr holds),
            contains.place_ne_directory valid, _, stands, rfl⟩
        cases failed.symm.trans moves
    · rcases cleared with rfl | rfl
      · exact kept
      · exact kept.undrafted name id

theorem read_of_not_isName (invalid : isName name = false) (disk : Disk) :
    (collection.read name).run disk = (.error (.invalidName name), disk) := by
  rw [read, flowPath_of_not_isName invalid]
  exact FileTask.run_bind_of_error rfl _

theorem read_of_bytes (valid : isName name = true)
    (bytes : disk.read (collection.place name) = .ok (bytesOf text.toList)) :
    (collection.read name).run disk = (collection.registry.read text, disk) := by
  simp [read, FileTask.readText, FileTask.run_bind, flowPath_of_isName valid, Call.run, bytes,
    Except.mapError, fromUTF8?_bytesOf]

theorem read_present (contains : collection.Contains disk texts)
    (present : texts.get? name = some text) :
    (collection.read name).run disk = (collection.registry.read text, disk) := by
  have stored : (texts.get? name).isSome := by simp [present]
  obtain ⟨valid, holds⟩ := contains.names name stored
  apply read_of_bytes valid
  rw [Disk.read_eq_ok_iff, contains.get?_place valid, present]
  exact ⟨Disk.reaches_child (contains.leads name stored) holds, rfl⟩

/-- Whatever else the disk holds, a flow that was saved is read from the text that was written. -/
theorem read_of_update {flow : Flow} {id : RunId} {path : Path} {left : Disk}
    (written : collection.registry.write (some flow) = .ok text)
    (saved : (collection.update name flow id).run disk = (.ok path, left)) :
    (collection.read name).run left = (collection.registry.read text, left) := by
  cases valid : isName name with
  | false =>
    rw [update_of_not_isName valid] at saved
    cases saved
  | true =>
    rcases makes : disk.makeDirectories collection.root with ⟨result, made⟩
    cases result with
    | error fault =>
      simp [update, FileTask.run_bind, flowPath_of_isName valid, written, Call.run, makes,
        Except.mapError] at saved
    | ok =>
      rw [update_of_made valid written makes] at saved
      rcases replaceFile_cases made (collection.place name) (bytesOf text.toList) id with
        ⟨drafted, moved, wrote, renamed, ran⟩ | ⟨fault, before, moved, -, -, ran⟩
      · rw [ran] at saved
        cases saved
        obtain ⟨-, -, rfl⟩ := (Disk.write_eq_ok_iff made drafted _ _).mp wrote
        have below : draft (collection.place name) id ≠ [] := by simp [draft]
        refine read_of_bytes valid (Disk.read_of_rename ?_ renamed)
        rw [Disk.get?_set _ below, if_pos rfl]
      · rw [ran] at saved
        cases saved

theorem Contains.locate_absent (contains : collection.Contains disk texts)
    (valid : isName name = true) (holds : disk.Holds (collection.place name))
    (absent : texts.get? name = none) :
    disk.locate (collection.place name) = .error .notFound ∨
      disk.locate (collection.place name) = .ok none := by
  have gone : disk.get? (collection.place name) = none := by
    rw [contains.get?_place valid, absent]
    rfl
  rw [← gone]
  exact Disk.locate_child contains.opens holds

theorem read_absent (contains : collection.Contains disk texts) (valid : isName name = true)
    (holds : disk.Holds (collection.place name)) (absent : texts.get? name = none) :
    (collection.read name).run disk = (.error (.disk .notFound), disk) := by
  have lost : disk.read (collection.place name) = .error .notFound := by
    rcases contains.locate_absent valid holds absent with located | located <;>
      simp [Disk.read, located, bind, Except.bind]
  simp [read, FileTask.readText, FileTask.run_bind, flowPath_of_isName valid, Call.run, lost,
    Except.mapError]

theorem delete_of_not_isName (invalid : isName name = false) (disk : Disk) :
    (collection.delete name).run disk = (.error (.invalidName name), disk) := by
  rw [delete, flowPath_of_not_isName invalid]
  exact FileTask.run_bind_of_error rfl _

theorem delete_present (contains : collection.Contains disk texts)
    (present : (texts.get? name).isSome) :
    ∃ left, (collection.delete name).run disk = (.ok true, left) ∧
      collection.Contains left (texts.erase name) := by
  obtain ⟨valid, holds⟩ := contains.names name present
  obtain ⟨text, stored⟩ := Option.isSome_iff_exists.mp present
  have removed : disk.remove (collection.place name) =
      .ok (disk.erase (collection.place name)) := by
    rw [Disk.remove_eq_ok_iff, contains.get?_place valid, stored]
    exact ⟨Disk.reaches_child (contains.leads name present) holds, ⟨_, rfl⟩, rfl⟩
  have below : collection.place name ≠ [] := by simp [place]
  refine ⟨disk.erase (collection.place name), ?_, contains.erased (disk.sameBut_erase _) ?_⟩
  · simp [delete, FileTask.run_bind, flowPath_of_isName valid, Call.run, Call.change, removed]
  · rw [Disk.get?_erase disk below, if_pos rfl]

theorem delete_unbound (contains : collection.Contains disk texts) (valid : isName name = true)
    (absent : texts.get? name = none) : ((collection.delete name).run disk).2 = disk := by
  have lost : ∀ left, disk.remove (collection.place name) ≠ .ok left := by
    intro left removed
    obtain ⟨-, ⟨file, stands⟩, -⟩ := (Disk.remove_eq_ok_iff disk left _).mp removed
    rw [contains.get?_place valid, absent] at stands
    cases stands
  cases removed : disk.remove (collection.place name) with
  | ok left => exact absurd removed (lost left)
  | error fault =>
    cases fault <;>
      simp [delete, FileTask.run_bind, flowPath_of_isName valid, Call.run, Call.change, removed]

theorem delete_absent (contains : collection.Contains disk texts) (valid : isName name = true)
    (holds : disk.Holds (collection.place name)) (absent : texts.get? name = none) :
    (collection.delete name).run disk = (.ok false, disk) := by
  have lost : disk.remove (collection.place name) = .error .notFound := by
    rcases contains.locate_absent valid holds absent with located | located <;>
      simp [Disk.remove, located, bind, Except.bind]
  simp [delete, FileTask.run_bind, flowPath_of_isName valid, Call.run, Call.change, lost]

theorem Contains.mem_flows_iff (contains : collection.Contains disk texts) (name : String) :
    name ∈ (disk.children collection.root).filterMap flowName? ↔ name ∈ texts.keys := by
  rw [List.mem_filterMap, Dict.mem_keys_iff]
  constructor
  · rintro ⟨file, listed, read⟩
    obtain ⟨solid, rfl⟩ := (flowName?_eq_some_iff file name).mp read
    have stands := (Disk.mem_children_iff disk collection.root _).mp listed
    rw [← place, contains.files name solid] at stands
    simpa using stands
  · intro present
    have solid := ne_empty_of_isName (contains.names name present).1
    refine ⟨name ++ flowSuffix, ?_, (flowName?_eq_some_iff _ name).mpr ⟨solid, rfl⟩⟩
    rw [Disk.mem_children_iff, ← place, contains.files name solid]
    simpa using present

theorem Contains.sort_flows (contains : collection.Contains disk texts) :
    ((disk.children collection.root).filterMap flowName?).mergeSort (fun a b => decide (a ≤ b)) =
      texts.keys := by
  have distinct : ((disk.children collection.root).filterMap flowName?).Nodup := by
    refine List.Nodup.filterMap ?_ (disk.nodup_children collection.root)
    intro file other name first second
    rw [((flowName?_eq_some_iff file name).mp first).2,
      ((flowName?_eq_some_iff other name).mp second).2]
  have same := (List.perm_ext_iff_of_nodup distinct texts.nodup_keys).mpr contains.mem_flows_iff
  have sorted (names : List String) : (names.mergeSort fun a b => decide (a ≤ b)).Pairwise
      fun a b => decide (a ≤ b) = true := by
    apply List.pairwise_mergeSort
    · intro a b c first second
      exact decide_eq_true (String.le_trans (of_decide_eq_true first) (of_decide_eq_true second))
    · intro a b
      simpa using String.le_total a b
  refine ((List.mergeSort_perm _ _).trans same).eq_of_pairwise ?_ (sorted _) ?_
  · intro a b _ _ le ge
    exact String.le_antisymm (of_decide_eq_true le) (of_decide_eq_true ge)
  · apply texts.keys_ascending.imp
    intro a b before
    exact decide_eq_true (String.not_lt.mp (String.lt_asymm before))

theorem list_eq (contains : collection.Contains disk texts) :
    collection.list.run disk = (.ok texts.keys, disk) := by
  rcases Disk.list_of_opens contains.opens with listed | ⟨lost, missing⟩
  · simp [list, FileTask.run_bind, Call.run, listed, contains.sort_flows]
  · have none : texts.keys = [] := by
      rw [List.eq_nil_iff_forall_not_mem]
      intro name present
      exact missing (contains.leads name ((Dict.mem_keys_iff texts name).mp present))
    simp [list, FileTask.run_bind, Call.run, lost, none]

end Operations

end Collection

end Scenario
