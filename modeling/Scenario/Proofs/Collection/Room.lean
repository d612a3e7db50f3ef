import Scenario.Proofs.Collection.Map
import Scenario.Proofs.Run.Id
/-!
Names with room for a draft.

A flow is created in its place, but it is saved through a draft whose name is longer: it holds the
name of the file, an id and a few points more. So the names of some flows can be held and those of
their drafts cannot. Such a flow is created and cannot be saved afterwards, and every other flow that
was created can.
-/
namespace Scenario

namespace PathLimits

variable {limits : PathLimits} {root : Path} {file : String}

theorem size_append (limits : PathLimits) (root : Path) (file : String) :
    limits.size (root ++ [file]) = limits.size root + 1 + file.utf8ByteSize := by
  rw [size, List.foldl_append]
  rfl

theorem holds_child_iff : limits.Holds (root ++ [file]) ↔ limits.Holds root ∧
    '\x00' ∉ file.toList ∧ file.utf8ByteSize ≤ Disk.longestName ∧
      limits.size (root ++ [file]) ≤ limits.longest := by
  rw [holds_iff, holds_iff, List.forall_mem_append, List.forall_mem_append,
    List.forall_mem_singleton, List.forall_mem_singleton]
  constructor
  · rintro ⟨⟨⟨free, clean⟩, size⟩, short, fits⟩
    refine ⟨⟨⟨free, ?_⟩, short⟩, clean, fits, size⟩
    rw [size_append] at size
    omega
  · rintro ⟨⟨⟨free, -⟩, short⟩, clean, fits, size⟩
    exact ⟨⟨⟨free, clean⟩, size⟩, short, fits⟩

theorem Holds.parent (holds : limits.Holds (root ++ [file])) : limits.Holds root :=
  (holds_child_iff.mp holds).1

end PathLimits

namespace Disk

variable {disk : Disk} {root : Path} {file : String}

theorem Reaches.parent (reaches : disk.Reaches (root ++ [file])) : disk.Leads root := by
  intro step before
  apply reaches.way step (before.trans (List.prefix_append root [file]))
  rintro rfl
  exact not_prefix_parent before

theorem opens_of_leads (holds : disk.Holds root) (leads : disk.Leads root) : disk.Opens root :=
  ⟨holds, fun step before => .inr (leads step before)⟩

theorem walk_of_long {entries : List (Path × File)}
    (leads : ∀ step, step <+: root → standing (some .directory) entries step = some .directory)
    (short : ∀ name ∈ root, name.utf8ByteSize ≤ longestName)
    (long : longestName < file.utf8ByteSize) :
    walk (some .directory) entries (root ++ [file]) = .error .nameTooLong := by
  -- By induction on the way: below its first name stand the entries of that directory.
  induction root generalizing entries with
  | nil =>
    rw [List.nil_append, walk, checkName, if_pos long]
    rfl
  | cons name root ih =>
    obtain ⟨fits, short⟩ := List.forall_mem_cons.mp short
    have here : (below name entries).lookup [] = some .directory := by
      rw [lookup_below]
      exact leads [name] (by simp)
    have inside (step : Path) (before : step <+: root) :
        standing (some .directory) (below name entries) step = some .directory := by
      have onward := standing_below name entries step
      rw [here] at onward
      exact onward.trans (leads (name :: step) (List.cons_prefix_cons.mpr ⟨rfl, before⟩))
    rw [List.cons_append, walk, (checkName_eq_ok_iff name).mpr fits]
    dsimp only
    rw [here]
    exact ih inside short

theorem locate_of_long (leads : disk.Leads root)
    (short : ∀ name ∈ root, name.utf8ByteSize ≤ longestName)
    (whole : disk.limits.check (root ++ [file]) = .ok ()) (long : longestName < file.utf8ByteSize) :
    disk.locate (root ++ [file]) = .error .nameTooLong := by
  rw [locate, whole]
  exact walk_of_long leads short long

end Disk

namespace Collection

variable {collection : Collection} {disk made : Disk} {name : String} {path : Path}

section Drafts

theorem utf8ByteSize_draftName (name : String) (id : RunId) :
    (draftName name id).utf8ByteSize = name.utf8ByteSize + 47 := by
  have point : ".".utf8ByteSize = 1 := by decide
  have flow : flowSuffix.utf8ByteSize = 5 := by decide
  have draft : ".tmp".utf8ByteSize = 4 := by decide
  simp only [draftName, String.utf8ByteSize_append, id.utf8ByteSize_text, point, flow, draft]
  omega

theorem zero_not_mem_draftName (free : '\x00' ∉ (name ++ flowSuffix).toList) (id : RunId) :
    '\x00' ∉ (draftName name id).toList := by
  have digits : '\x00' ∉ id.text.toList := fun member =>
    RunId.forall_mem_text (p := (· ≠ '\x00')) (by decide) (by decide) id _ member rfl
  simp only [draftName, String.toList_append, List.mem_append, not_or] at free ⊢
  exact ⟨⟨⟨⟨by decide, free⟩, by decide⟩, digits⟩, by decide⟩

variable {limits : PathLimits} {id : RunId}

theorem zero_not_mem_of_holds (holds : limits.Holds (collection.place name)) :
    '\x00' ∉ (draftName name id).toList :=
  zero_not_mem_draftName (PathLimits.holds_child_iff.mp holds).2.1 id

/-- Where a flow has its place its draft can be written down, if paths may be as long as they are. -/
theorem check_draft (holds : limits.Holds (collection.place name))
    (room : limits.size (draft (collection.place name) id) ≤ limits.longest) :
    limits.check (draft (collection.place name) id) = .ok () := by
  obtain ⟨free, -⟩ := (PathLimits.check_eq_ok_iff _).mp holds.parent.whole
  rw [PathLimits.check_eq_ok_iff]
  refine ⟨?_, room⟩
  rw [draft_place, List.forall_mem_append, List.forall_mem_singleton]
  exact ⟨free, zero_not_mem_of_holds holds⟩

theorem holds_draft (holds : limits.Holds (collection.place name))
    (room : limits.size (draft (collection.place name) id) ≤ limits.longest)
    (short : name.utf8ByteSize ≤ 208) : limits.Holds (draft (collection.place name) id) := by
  rw [draft_place] at room ⊢
  refine PathLimits.holds_child_iff.mpr ⟨holds.parent, zero_not_mem_of_holds holds, ?_, room⟩
  rw [utf8ByteSize_draftName, Disk.longestName]
  omega

end Drafts

section Saving

variable {bytes : List UInt8} {id : RunId}

theorem replaceFile_of_holds (leads : disk.Leads collection.root)
    (holds : disk.Holds (collection.place name))
    (draftHolds : disk.Holds (draft (collection.place name) id))
    (plain : disk.get? (collection.place name) ≠ some .directory)
    (fresh : disk.get? (draft (collection.place name) id) ≠ some .directory) :
    ∃ left, (replaceFile (collection.place name) bytes id).run disk = (.ok (), left) ∧
      left.read (collection.place name) = .ok bytes ∧
      left.get? (draft (collection.place name) id) = none ∧
      ∀ other, other ≠ collection.place name → other ≠ draft (collection.place name) id →
        left.get? other = disk.get? other := by
  have below : collection.place name ≠ [] := by simp [place]
  have draftBelow : draft (collection.place name) id ≠ [] := by simp [draft]
  have apart : draft (collection.place name) id ≠ collection.place name := by
    rw [draft_place, place, ne_eq, List.append_cancel_left_eq]
    exact fun same => draftName_ne name id name (List.cons.inj same).1
  obtain ⟨drafted, wrote⟩ : ∃ drafted, disk.write (draft (collection.place name) id) bytes =
      .ok drafted :=
    ⟨_, (Disk.write_eq_ok_iff disk _ _ bytes).mpr ⟨reaches_draft leads draftHolds, fresh, rfl⟩⟩
  obtain ⟨kept, stands⟩ := Disk.sameBut_of_write wrote
  have still : drafted.Leads collection.root := by
    rw [draft_place] at kept
    exact kept.leads leads
  have reaches : drafted.Reaches (collection.place name) :=
    Disk.reaches_child still (kept.holds_iff.mpr holds)
  have moved := (Disk.rename_eq_ok_iff drafted _ _ _).mpr
    ⟨reaches_draft still (kept.holds_iff.mpr draftHolds), reaches,
      by rwa [kept.stands _ apart.symm], _, stands, rfl⟩
  refine ⟨_, ?_, Disk.read_of_rename stands moved, ?_, fun other far away => ?_⟩
  · simp [replaceFile, FileTask.run_bind, Call.run, Call.change, wrote, moved]
  · rw [Disk.get?_set _ below, if_neg apart, Disk.get?_erase _ draftBelow, if_pos rfl]
  · rw [Disk.get?_set _ below, if_neg far, Disk.get?_erase _ draftBelow, if_neg away,
      kept.stands other away]

theorem replaceFile_of_lost {path : Path} {fault : DiskFault}
    (lost : disk.locate (draft path id) = .error fault) :
    (replaceFile path bytes id).run disk = (.error (.disk fault), disk) := by
  have unwritten : disk.write (draft path id) bytes = .error fault := by
    rw [Disk.write, lost]
    rfl
  have unremoved : disk.remove (draft path id) = .error fault := by
    rw [Disk.remove, lost]
    rfl
  simp [replaceFile, FileTask.run_bind, Call.run, Call.change, unwritten, unremoved]

theorem exists_of_create {created : Option Flow}
    (creates : (collection.create name created).run disk = (.ok path, made)) :
    isName name = true ∧ path = collection.place name ∧ made.Holds (collection.place name) ∧
      made.Leads collection.root ∧ ∃ bytes, made.get? (collection.place name) = some (.file bytes) := by
  cases valid : isName name with
  | false =>
    rw [create_of_not_isName valid] at creates
    cases creates
  | true =>
    cases written : collection.registry.write created with
    | error e =>
      simp [create, FileTask.run_bind, flowPath_of_isName valid, written] at creates
    | ok text =>
      rcases makes : disk.makeDirectories collection.root with ⟨result, opened⟩
      cases result with
      | error fault =>
        simp [create, FileTask.run_bind, flowPath_of_isName valid, written, Call.run, makes,
          Except.mapError] at creates
      | ok =>
        rw [create_of_made valid written makes] at creates
        cases opens : opened.createNew (collection.place name) with
        | error fault =>
          rw [opens] at creates
          cases creates
        | ok begun =>
          rw [opens] at creates
          cases creates
          obtain ⟨reaches, -, -⟩ := (Disk.createNew_eq_ok_iff _ _ _).mp opens
          obtain ⟨-, same, stands⟩ := Disk.sameBut_of_createNew opens
          obtain ⟨filled, full⟩ := Disk.fill_of_stands (bytesOf text.toList) (by simp [place]) stands
          have changed := same.trans filled
          exact ⟨rfl, rfl, changed.holds_iff.mpr reaches.holds, changed.leads reaches.parent, _, full⟩

theorem update_of_long {text : String} {flow : Flow} (valid : isName name = true)
    (written : collection.registry.write (some flow) = .ok text)
    (holds : disk.Holds (collection.place name)) (leads : disk.Leads collection.root)
    (room : disk.limits.size (draft (collection.place name) id) ≤ disk.limits.longest)
    (long : 208 < name.utf8ByteSize) :
    (collection.update name flow id).run disk = (.error (.disk .nameTooLong), disk) := by
  have makes := Disk.makeDirectories_of_leads (Disk.opens_of_leads holds.parent leads) leads
  have lost : disk.locate (draft (collection.place name) id) = .error .nameTooLong := by
    have whole := check_draft holds room
    rw [draft_place] at whole ⊢
    apply Disk.locate_of_long leads holds.parent.names whole
    rw [utf8ByteSize_draftName, Disk.longestName]
    omega
  rw [update_of_made valid written makes, replaceFile_of_lost lost]

/-- A flow that was created can be saved right afterwards, whatever is saved, exactly if its name has
no more than 208 bytes. Then its file holds the text that is saved, and nothing else has changed but
that no draft is left; otherwise the name of the draft is too long and nothing has changed at all. -/
theorem update_of_created (standard : collection.registry = .standard) {created : Option Flow}
    (creates : (collection.create name created).run disk = (.ok path, made)) (flow : Flow)
    (fresh : made.get? (draft path id) ≠ some .directory)
    (room : made.limits.size (draft path id) ≤ made.limits.longest) :
    (name.utf8ByteSize ≤ 208 →
      ∃ left, (collection.update name flow id).run made = (.ok path, left) ∧
        left.read path = .ok (bytesOf (Flow.savedText (some flow)).toList) ∧
        left.get? (draft path id) = none ∧
        ∀ other, other ≠ path → other ≠ draft path id → left.get? other = made.get? other) ∧
    (208 < name.utf8ByteSize →
      (collection.update name flow id).run made = (.error (.disk .nameTooLong), made)) := by
  obtain ⟨valid, rfl, holds, leads, bytes, stands⟩ := exists_of_create creates
  have written : collection.registry.write (some flow) = .ok (Flow.savedText (some flow)) := by
    rw [standard, Flow.write_savedText]
  constructor
  · intro short
    have makes := Disk.makeDirectories_of_leads (Disk.opens_of_leads holds.parent leads) leads
    have plain : made.get? (collection.place name) ≠ some .directory := by simp [stands]
    obtain ⟨left, ran, saved⟩ :=
      replaceFile_of_holds leads holds (holds_draft holds room short) plain fresh
    rw [update_of_made valid written makes, ran]
    exact ⟨left, rfl, saved⟩
  · exact update_of_long valid written holds leads room

end Saving

section Shelf

theorem smoke_updated : ∃ made left,
    (shelf.create "smoke" none).run ∅ = (.ok (shelf.place "smoke"), made) ∧
      (shelf.update "smoke" pausing (.ofNat 7)).run made = (.ok (shelf.place "smoke"), left) ∧
      left.read (shelf.place "smoke") = .ok (bytesOf (Flow.savedText (some pausing)).toList) := by
  obtain ⟨made, creates, contains⟩ := create_new vacant_shelf.contains
    (by decide : isName "smoke" = true) (by decide +kernel) (Flow.write_savedText none) rfl
  have room : made.limits.size (draft (shelf.place "smoke") (.ofNat 7)) ≤ made.limits.longest := by
    rw [FileTask.limits_of_run creates]
    decide +kernel
  obtain ⟨saves, -⟩ := update_of_created rfl creates pausing
    (contains.drafts "smoke" (.ofNat 7)) room
  obtain ⟨left, updates, read, -⟩ := saves (by decide)
  exact ⟨made, left, creates, updates, read⟩

/-- A flow with a name of 220 letters is created, but no flow can be saved by this name. -/
theorem long_name_not_updated :
    let name := String.ofList (List.replicate 220 'a')
    ∃ made, (shelf.create name none).run ∅ = (.ok (shelf.place name), made) ∧
      ∀ flow id, (shelf.update name flow id).run made = (.error (.disk .nameTooLong), made) := by
  intro name
  have letters : ∀ c ∈ List.replicate 220 'a', c = 'a' := fun _ => List.eq_of_mem_replicate
  have size : name.utf8ByteSize = 220 := by
    rw [RunId.utf8ByteSize_of_ascii fun c member => by rw [letters c member]; decide,
      List.length_replicate]
  have valid : isName name = true := by
    rw [isName, Text.isBlankText, String.toList_ofList]
    decide +kernel
  have root : (∅ : Disk).limits.size shelf.root = 21 := by decide +kernel
  have suffix : flowSuffix.utf8ByteSize = 5 := by decide
  have free : '\x00' ∉ (name ++ flowSuffix).toList := by
    rw [String.toList_append, String.toList_ofList, List.mem_append, not_or]
    exact ⟨fun member => absurd (letters _ member) (by decide), by decide⟩
  have holds : (∅ : Disk).Holds (shelf.place name) := by
    refine PathLimits.holds_child_iff.mpr ⟨by decide +kernel, free, ?_, ?_⟩
    · rw [String.utf8ByteSize_append, size, suffix]
      decide
    · rw [PathLimits.size_append, root, String.utf8ByteSize_append, size, suffix]
      decide
  obtain ⟨made, creates, -⟩ :=
    create_new vacant_shelf.contains valid holds (Flow.write_savedText none) rfl
  obtain ⟨-, -, holds, leads, -⟩ := exists_of_create creates
  have limits := FileTask.limits_of_run creates
  refine ⟨made, creates, fun flow id =>
    update_of_long valid (Flow.write_savedText (some flow)) holds leads ?_ ?_⟩
  · rw [limits, draft_place, PathLimits.size_append, root, utf8ByteSize_draftName, size]
    decide
  · rw [size]
    decide

end Shelf

end Collection

end Scenario
