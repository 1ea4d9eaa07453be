import Switchyard.Proofs.DiskSteps
import Switchyard.Proofs.JsonText
import Switchyard.Proofs.Paths
import Switchyard.Store.Document

/-!
# Documents on a disk

Where writing a document succeeds, the file holds the whole text of the
document, and reading gives the value back. Where it fails, the file is as it
was. In both cases nothing else on the disk changes but for the draft and for
folders that were made on the way.
-/

namespace Switchyard.Store

open Files (Disk IsPlain Sight Place placeOf join)
open Files.Disk (Alike Grown IsWritten)

/-- A written document reads as the value that it was made from. -/
theorem interpret_pretty {Value : Type} {path : String}
    {read : Json → Option Value} {absent value : Value} {document : Json}
    (readable : document.isReadable = true)
    (reads : read document = some value) :
    interpret path read absent (.ok (Bytes.ofText document.pretty)) =
      .ok value := by
  simp only [interpret, Bytes.text?_ofText, Json.isBlank_pretty,
    Bool.false_eq_true, if_false, Json.parse?_pretty readable,
    Option.bind_some, reads]

theorem draftPath_join {name : String} (plain : IsPlain name)
    (folder : String) :
    draftPath (join folder name) = join folder (name ++ ".tmp") :=
  plain.join_append folder ".tmp"

theorem isPlain_draft {name : String} (plain : IsPlain name) :
    IsPlain (name ++ ".tmp") := by
  have letter : 't' ∈ (name ++ ".tmp").toList := by
    rw [String.toList_append]
    exact List.mem_append_right _ (by decide)
  have different {other : String} (without : 't' ∉ other.toList) :
      name ++ ".tmp" ≠ other :=
    fun same => without (same ▸ letter)
  refine ⟨?_, ?_, different (by decide)⟩
  · rw [String.toList_append, List.mem_append, not_or]
    exact ⟨plain.apart, by decide⟩
  · have nonempty : name ++ ".tmp" ≠ "" := different (by decide)
    have other : name ++ ".tmp" ≠ "." := different (by decide)
    rw [Files.countsAsPart, bne_iff_ne.2 nonempty, bne_iff_ne.2 other]
    rfl

theorem placeOf_draftPath {name : String} (plain : IsPlain name)
    (working : Place) (folder : String) :
    placeOf working (draftPath (join folder name)) =
      placeOf working folder ++ [name ++ ".tmp"] := by
  rw [draftPath_join plain, (isPlain_draft plain).placeOf_join]

theorem perform_writeDocument_eq (path : String) (value : Json) (disk : Disk) :
    disk.perform (writeDocument path value) =
      match disk.makeFolders ((Files.parent? path).getD "") with
      | (.error fault, made) => (.error (.files fault.message), made)
      | (.ok (), made) =>
        match made.truncate (draftPath path) with
        | (.error fault, opened) => (.error (.files fault.message), opened)
        | (.ok number, opened) =>
          let written := opened.write number (Bytes.ofText value.pretty)
          match written.rename (draftPath path) path with
          | (.ok (), renamed) => (.ok (), renamed)
          | (.error fault, refused) =>
            (.error (.files fault.message),
              (refused.remove (draftPath path)).2) := by
  simp only [Disk.perform, writeDocument, Files.ask, Routine.call_bind,
    Routine.complete, Disk.answer]
  rcases disk.makeFolders ((Files.parent? path).getD "") with
    ⟨⟨fault⟩ | ⟨⟨⟩⟩, made⟩
  · rfl
  dsimp only
  rcases opening : made.truncate (draftPath path) with
    ⟨⟨fault⟩ | ⟨number⟩, opened⟩
  · simp only [Routine.complete, Disk.answer, opening]
    rfl
  · simp only [Routine.complete, Disk.answer, opening]
    rcases (opened.write number (Bytes.ofText value.pretty)).rename
      (draftPath path) path with ⟨⟨fault⟩ | ⟨⟨⟩⟩, renamed⟩
    · rfl
    · rfl

/-- Whether something other than files is in the way of writing a document under
a name. -/
def IsObstructed (disk : Disk) (home : Place) (name : String) : Prop :=
  disk.IsOpen home → disk.sight? (home ++ [name]) = some .folder ∨
    disk.sight? (home ++ [name ++ ".tmp"]) = some .folder ∨
    disk.sight? (home ++ [name ++ ".tmp"]) = some .brokenLink

/-- What writing a document under a name in some place leaves behind. -/
structure Writing (home : Place) (name : String) (text : String) (disk : Disk)
    (result : Except StoreError Unit) (after : Disk) : Prop where
  sound : after.Sound
  working : after.working = disk.working
  done : result = .ok () → after.IsOpen home ∧
    after.sight? (home ++ [name]) = some (.file (Bytes.ofText text)) ∧
    after.sight? (home ++ [name ++ ".tmp"]) = none
  failed : result ≠ .ok () →
    after.sight? (home ++ [name]) = disk.sight? (home ++ [name]) ∧
    IsObstructed disk home name
  opened : disk.IsOpen home → after.IsOpen home
  elsewhere : ∀ other,
    other ≠ home ++ [name] → ¬ home ++ [name ++ ".tmp"] <+: other →
    ¬ other <+: home → after.sight? other = disk.sight? other

section Writing

variable {disk made after : Disk} {home : Place} {name text : String}
  {result : Except StoreError Unit}

theorem prefix_sibling_iff {home : Place} {name other : String} :
    home ++ [name] <+: home ++ [other] ↔ name = other := by
  simp [List.prefix_append_right_inj]

theorem draft_ne (name : String) : name ++ ".tmp" ≠ name := by
  intro same
  have lengths := congrArg String.length same
  simp at lengths

theorem draft_aside (home : Place) (name : String) :
    ¬ home ++ [name ++ ".tmp"] <+: home ++ [name] :=
  fun within => draft_ne name (prefix_sibling_iff.1 within)

theorem not_prefix_self (home : Place) (name : String) :
    ¬ home ++ [name] <+: home := by
  intro within
  have lengths := within.length_le
  rw [List.length_append, List.length_singleton] at lengths
  omega

theorem isOpen_of_alike (alike : Alike (home ++ [name]) disk after)
    (opened : disk.IsOpen home) :
    after.IsOpen home := by
  intro front within
  rw [alike.elsewhere front fun below =>
    not_prefix_self home name (below.trans within)]
  exact opened front within

/-- Where folders are made on the way and only a draft is touched, nothing is
written. -/
theorem writing_of_alike (obstructed : IsObstructed disk home name)
    (grown : Grown disk made)
    (kept : ∀ other, ¬ other <+: home → made.sight? other = disk.sight? other)
    (sound : after.Sound) (alike : Alike (home ++ [name ++ ".tmp"]) made after)
    (error : StoreError) :
    Writing home name text disk (.error error) after where
  sound := sound
  working := alike.working.trans grown.working
  done := nofun
  failed _ := ⟨(alike.elsewhere _ (draft_aside home name)).trans
    (kept _ (not_prefix_self home name)), obstructed⟩
  opened folders := isOpen_of_alike alike fun front within =>
    Files.Disk.sight?_eq_folder_iff.2
      (grown.isFolder (Files.Disk.sight?_eq_folder_iff.1
        (folders front within)))
  elsewhere other _ aside apart :=
    (alike.elsewhere other aside).trans (kept other apart)

section Draft

variable {drafted : Disk} {number : Nat}

/-- A draft that cannot take the name, since a folder has it, is removed
again. -/
theorem writing_of_refused (grown : Grown disk made)
    (kept : ∀ other, ¬ other <+: home → made.sight? other = disk.sight? other)
    (written : IsWritten made drafted (home ++ [name ++ ".tmp"]) number
      (Bytes.ofText text))
    (folderThere : drafted.sight? (home ++ [name]) = some .folder)
    (error : StoreError) :
    Writing home name text disk (.error error)
      (drafted.drop (home ++ [name ++ ".tmp"])) := by
  have obstructed : IsObstructed disk home name := by
    intro _
    rw [← kept _ (not_prefix_self home name),
      ← written.alike.elsewhere _ (draft_aside home name)]
    exact .inl folderThere
  obtain ⟨soundAfter, alike⟩ := written.drop (by simp)
  exact writing_of_alike obstructed grown kept soundAfter alike error

/-- A draft that holds the whole text takes the name, and is a draft no
longer. -/
theorem writing_of_renamed (grown : Grown disk made)
    (kept : ∀ other, ¬ other <+: home → made.sight? other = disk.sight? other)
    (isOpen : made.IsOpen home)
    (written : IsWritten made drafted (home ++ [name ++ ".tmp"]) number
      (Bytes.ofText text)) :
    Writing home name text disk (.ok ())
      ((drafted.drop (home ++ [name ++ ".tmp"])).put (home ++ [name])
        (.file number)) := by
  have apart : home ++ [name ++ ".tmp"] ≠ home ++ [name] := by
    intro same
    have within := draft_aside home name
    rw [same] at within
    exact within List.prefix_rfl
  obtain ⟨soundAfter, workingAfter, here, gone, elsewhere⟩ :=
    written.rename (by simp) (by simp) apart
  have folders : ((drafted.drop (home ++ [name ++ ".tmp"])).put (home ++ [name])
      (.file number)).IsOpen home := by
    intro front within
    rw [elsewhere front fun below => not_prefix_self _ _ (below.trans within)]
    · exact isOpen front within
    · rintro rfl
      exact not_prefix_self _ _ within
  exact ⟨soundAfter, workingAfter.trans grown.working,
    fun _ => ⟨folders, here, gone⟩, fun refused => absurd rfl refused,
    fun _ => folders,
    fun other different aside apart =>
      (elsewhere other aside different).trans (kept other apart)⟩

end Draft

/-- Writing a document under a plain name in a folder. -/
theorem writing_writeDocument (sound : disk.Sound) (plain : IsPlain name)
    (folder : String) (value : Json) :
    Writing (placeOf disk.working folder) name value.pretty disk
      (disk.perform (writeDocument (join folder name) value)).1
      (disk.perform (writeDocument (join folder name) value)).2 := by
  have toHome := plain.placeOf_parent?_join disk.working folder
  have leads {there : Disk} (same : there.working = disk.working)
      {known : String} (plain : IsPlain known) :
      placeOf there.working (join folder known) =
        placeOf disk.working folder ++ [known] := by
    rw [same, plain.placeOf_join]
  have grown :=
    Files.Disk.grown_makeFolders disk
      ((Files.parent? (join folder name)).getD "")
  have kept := Files.Disk.sight?_makeFolders_of_aside toHome
  have stays := Files.Disk.makeFolders_of_isOpen toHome
  rw [perform_writeDocument_eq, draftPath_join plain]
  generalize placeOf disk.working folder = home at *
  rcases making :
      disk.makeFolders ((Files.parent? (join folder name)).getD "") with
    ⟨⟨fault⟩ | ⟨⟨⟩⟩, made⟩
  all_goals
    rw [making] at grown kept stays
    dsimp only at grown kept
  · have closed : IsObstructed disk home name :=
      fun opened => nomatch stays opened
    exact writing_of_alike closed grown kept (grown.sound sound)
      ⟨rfl, fun _ _ => rfl⟩ _
  have isOpen := Files.Disk.isOpen_of_makeFolders toHome making
  dsimp only
  rcases opening : made.truncate (join folder (name ++ ".tmp")) with
    ⟨⟨fault⟩ | ⟨number⟩, emptied⟩
  · obtain ⟨rfl, taken⟩ :=
      Files.Disk.truncate_error
        (leads grown.working (isPlain_draft plain)) opening
    have obstructed : IsObstructed disk home name := by
      intro opened
      obtain rfl := (Prod.mk.inj (stays opened)).2
      exact .inr (taken isOpen)
    exact writing_of_alike obstructed grown kept (grown.sound sound)
      ⟨rfl, fun _ _ => rfl⟩ _
  -- The draft holds the whole text before it takes the name.
  obtain ⟨-, draft⟩ :=
    (grown.sound sound).isWritten_truncate
      (leads grown.working (isPlain_draft plain)) opening
  have written := draft.write (Bytes.ofText value.pretty)
  have workings := written.alike.working.trans grown.working
  have openAfter := isOpen_of_alike written.alike isOpen
  have toDraft := leads workings (isPlain_draft plain)
  have renamed :=
    Files.Disk.rename_of_file toDraft (leads workings plain)
      openAfter written.entry
  have removed := Files.Disk.remove_of_file toDraft openAfter written.entry
  dsimp only
  rw [renamed]
  by_cases folderThere :
      (emptied.write number (Bytes.ofText value.pretty)).sight?
        (home ++ [name]) = some .folder
  · rw [if_pos folderThere]
    dsimp only
    rw [removed]
    exact writing_of_refused grown kept written folderThere _
  · rw [if_neg folderThere]
    exact writing_of_renamed grown kept isOpen written

/-- Writing succeeds where the folder is there, no folder has the name and no
draft is left. -/
theorem Writing.result_eq_ok
    (writing : Writing home name text disk result after)
    (opened : disk.IsOpen home)
    (free : disk.sight? (home ++ [name]) ≠ some .folder)
    (draft : disk.sight? (home ++ [name ++ ".tmp"]) = none) :
    result = .ok () := by
  by_contra refused
  obtain ⟨-, obstructed⟩ := writing.failed refused
  rcases obstructed opened with folder | folder | link
  · exact free folder
  · exact nomatch draft.symm.trans folder
  · exact nomatch draft.symm.trans link

/-- What is in the folder under other names stays as it is. -/
theorem Writing.sibling (writing : Writing home name text disk result after)
    {other : String} (different : other ≠ name)
    (noDraft : other ≠ name ++ ".tmp") :
    after.sight? (home ++ [other]) = disk.sight? (home ++ [other]) :=
  writing.elsewhere _ (fun same => different (by simpa using same))
    (fun within => noDraft (prefix_sibling_iff.1 within).symm)
    (not_prefix_self home other)

end Writing

end Switchyard.Store
