import Switchyard.Proofs.Dialogue
import Switchyard.Proofs.Documents

/-!
# The stages of writing

A document is written in steps: folders are made, a draft is emptied and filled,
and the draft takes the name of the file. Each of these steps may break off, and
others may act in between. What a step leads to and what it changes is said here
once, whoever else is at work on the same disk.
-/

namespace Switchyard.Files

open Routine (Exchange)

/-- How a step on a disk turns out: the disk does what it can, or the step
breaks off when a part of it is done. -/
inductive Fortune where
  | serves
  | breaksOff (reason : String) (done : Nat)
deriving DecidableEq, Repr

def Fortune.fault? : Fortune → Option Fault
  | .serves => none
  | .breaksOff reason _ => some (.other reason)

def Request.refused (fault : Fault) : (request : Request) → request.Answer
  | .read _ => .error fault
  | .makeFolders _ => .error fault
  | .truncate _ => .error fault
  | .write _ _ => .error fault
  | .rename _ _ => .error fault
  | .remove _ => .error fault

/-- What is left of a step that breaks off: the first folders that it made or
the first bytes that it wrote. A file is opened and a name is given as a whole
or not at all. -/
def Disk.partly (done : Nat) (disk : Disk) : Request → Disk
  | .makeFolders path =>
    (makeAlong [] ((placeOf disk.working path).take done) disk).2
  | .write number bytes => disk.write number (bytes.take done)
  | _ => disk

def Disk.meet (fortune : Fortune) (request : Request) (disk : Disk) :
    request.Answer × Disk :=
  match fortune with
  | .serves => disk.answer request
  | .breaksOff reason done =>
    (request.refused (.other reason), disk.partly done request)

section Turns

variable {Result : Type}

/-- Carries a piece of work one step further. -/
def turn (fortune : Fortune) : Work Result × Disk → Work Result × Disk
  | (.done result, disk) => (.done result, disk)
  | (.ask request resume, disk) =>
    (resume (disk.meet fortune request).1, (disk.meet fortune request).2)

/-- What is asked and answered in that step. -/
def told? (fortune : Fortune) :
    Work Result × Disk → Option (Exchange Request.Answer)
  | (.done _, _) => none
  | (.ask request _, disk) => some ⟨request, (disk.meet fortune request).1⟩

end Turns

/-- Whether a file was opened and emptied. -/
def opens : Exchange Request.Answer → Bool
  | ⟨.truncate _, .ok _⟩ => true
  | _ => false

/-- Whether something was given another name. -/
def names : Exchange Request.Answer → Bool
  | ⟨.rename _ _, .ok ()⟩ => true
  | _ => false

namespace Disk

variable {disk : Disk} {place : Place} {number : Nat}

/-- Whether a file can be opened in a place: there is one already, or
nothing. -/
def IsVacant (disk : Disk) (place : Place) : Prop :=
  disk.sight? place ≠ some .folder ∧ disk.sight? place ≠ some .brokenLink

/-- Whether the folders that lead to a place are there or can be made. -/
def IsReachable (disk : Disk) (place : Place) : Prop :=
  (makeAlong [] place disk).1 = .ok ()

theorem IsOpen.isReachable (opened : disk.IsOpen place) :
    disk.IsReachable place := by
  rw [IsReachable, makeAlong_of_folders fun front within _ =>
    sight?_eq_folder_iff.1 (opened front within)]

/-- Where folders can be made, nothing but a folder that is missing is in the
way. -/
theorem obstacle?_of_makeAlong {reached names : Place} (last : String)
    (made : (makeAlong reached names disk).1 = .ok ()) :
    disk.obstacle? reached (names ++ [last]) = none ∨
      disk.obstacle? reached (names ++ [last]) = some .notFound := by
  induction names generalizing reached with
  | nil => exact .inl rfl
  | cons name names namesFact =>
    rw [makeAlong] at made
    obtain ⟨next, later, shape⟩ :
        ∃ next later, names ++ [last] = next :: later :=
      List.exists_cons_of_ne_nil (by simp)
    rw [List.cons_append, shape, obstacle?]
    · cases found : disk.entryAt? (reached ++ [name]) with
      | none => exact .inr rfl
      | some entry =>
        rw [found] at made
        cases entry with
        | folder => exact shape ▸ namesFact made
        | file number => cases made
        | brokenLink => cases made
    · simp

/-- What reading gives where something is seen, or nothing. -/
def readSight : Option Sight → Except Fault Bytes
  | some (.file bytes) => .ok bytes
  | some .folder => .error .isFolder
  | _ => .error .notFound

/-- A file in a folder that is there or can be made reads as it is seen. -/
theorem read_of_isReachable {path : String} {home : Place} {name : String}
    (leads : placeOf disk.working path = home ++ [name])
    (reachable : disk.IsReachable home)
    (hidden : ¬ disk.IsOpen home → disk.sight? (home ++ [name]) = none) :
    disk.read path = readSight (disk.sight? (home ++ [name])) := by
  by_cases opened : disk.IsOpen home
  · rw [read_of_isOpen leads opened]
    rfl
  · have way := (obstacle?_of_makeAlong name reachable).resolve_left fun free =>
      opened (obstacle?_eq_none_iff_isOpen.1 free)
    rw [read, reach, leads, way, hidden opened]
    rfl

theorem Sound.isWritten_self (sound : disk.Sound)
    (found : disk.entryAt? place = some (.file number)) :
    IsWritten disk disk place number (disk.content number) :=
  ⟨sound, found, rfl, rfl, fun _ _ => rfl⟩

theorem Sound.write (sound : disk.Sound) (number : Nat) (bytes : Bytes) :
    (disk.write number bytes).Sound :=
  ⟨fun place known found =>
    by simpa [Disk.write] using sound.stored place known found, sound.apart⟩

theorem Sound.drop (sound : disk.Sound) (named : place ≠ []) :
    (disk.drop place).Sound := by
  have kept {other : Place} {entry : Entry}
      (found : (disk.drop place).entryAt? other = some entry) :
      disk.entryAt? other = some entry := by
    rw [entryAt?_drop named] at found
    split at found
    · cases found
    · exact found
  exact ⟨fun other known found => sound.stored other known (kept found),
    fun one other known found found' =>
      sound.apart one other known (kept found) (kept found')⟩

theorem Sound.remove (sound : disk.Sound) (path : String) :
    (disk.remove path).2.Sound := by
  unfold Disk.remove
  split
  · exact sound
  · next place _ =>
    split
    · exact sound
    · exact sound
    · next entry foreign found =>
      refine sound.drop fun top => ?_
      rw [top] at found
      exact foreign (Option.some.inj found).symm

/-- Dropping a place is seen only there and below it. -/
theorem sight?_drop (named : place ≠ []) {other : Place}
    (aside : ¬ place <+: other) :
    (disk.drop place).sight? other = disk.sight? other :=
  sight?_congr (by rw [entryAt?_drop named, if_neg aside]) fun _ _ => rfl

/-- Writing to a content is seen only where that content has its name. -/
theorem sight?_write (apart : disk.entryAt? place ≠ some (.file number))
    (bytes : Bytes) :
    (disk.write number bytes).sight? place = disk.sight? place := by
  refine sight?_congr rfl fun known found => ?_
  have different : number ≠ known := by
    rintro rfl
    exact apart found
  simp [Disk.content, Disk.write, List.getElem?_set_ne different]

theorem IsOpen.write (opened : disk.IsOpen place) (number : Nat)
    (bytes : Bytes) :
    (disk.write number bytes).IsOpen place := by
  intro front within
  have folder := sight?_eq_folder_iff.1 (opened front within)
  exact sight?_eq_folder_iff.2 folder

theorem IsOpen.grown {made : Disk} (opened : disk.IsOpen place)
    (grown : Grown disk made) :
    made.IsOpen place :=
  fun front within => sight?_eq_folder_iff.2
    (grown.isFolder (sight?_eq_folder_iff.1 (opened front within)))

theorem isVacant_of_sight? {bytes : Bytes}
    (seen : disk.sight? place = some (.file bytes)) :
    disk.IsVacant place := by
  simp [IsVacant, seen]

theorem isVacant_of_nothing (gone : disk.sight? place = none) :
    disk.IsVacant place := by
  simp [IsVacant, gone]

theorem IsVacant.congr {after : Disk} (vacant : disk.IsVacant place)
    (same : after.sight? place = disk.sight? place) : after.IsVacant place := by
  rwa [IsVacant, same]

theorem IsVacant.exists_file (vacant : disk.IsVacant place) {entry : Entry}
    (found : disk.entryAt? place = some entry) :
    ∃ number, entry = .file number := by
  cases entry with
  | file number => exact ⟨number, rfl⟩
  | folder => exact absurd (sight?_of_entryAt? found) vacant.1
  | brokenLink => exact absurd (sight?_of_entryAt? found) vacant.2

end Disk

end Switchyard.Files

namespace Switchyard.Store

open Files (Disk Fault Fortune IsPlain Place Work ask placeOf join turn told?)
open Files.Disk (Grown IsWritten)
open Routine (Exchange)

section Works

variable (path : String) (bytes : Bytes)

def giveUp (fault : Fault) : Work (Except StoreError Unit) :=
  pure (.error (.files fault.message))

def dropDraft (fault : Fault) : Work (Except StoreError Unit) := do
  let _ ← ask (.remove (draftPath path))
  giveUp fault

def nameDraft : Work (Except StoreError Unit) := do
  match ← ask (.rename (draftPath path) path) with
  | .ok () => pure (.ok ())
  | .error fault => dropDraft path fault

def fillDraft (number : Nat) : Work (Except StoreError Unit) := do
  match ← ask (.write number bytes) with
  | .error fault => giveUp fault
  | .ok () => nameDraft path

def openDraft : Work (Except StoreError Unit) := do
  match ← ask (.truncate (draftPath path)) with
  | .error fault => giveUp fault
  | .ok number => fillDraft path bytes number

def beginDraft : Work (Except StoreError Unit) := do
  match ← ask (.makeFolders ((Files.parent? path).getD "")) with
  | .error fault => giveUp fault
  | .ok () => openDraft path bytes

end Works

/-- Where the writing of a document has got to. -/
inductive Drafting where
  | beginning
  | opening
  | filling (number : Nat)
  | naming
  | dropping (fault : Fault)
  | ended (result : Except StoreError Unit)

/-- What is left to do in a stage. -/
def Drafting.rest (path : String) (bytes : Bytes) :
    Drafting → Work (Except StoreError Unit)
  | .beginning => beginDraft path bytes
  | .opening => openDraft path bytes
  | .filling number => fillDraft path bytes number
  | .naming => nameDraft path
  | .dropping fault => dropDraft path fault
  | .ended result => .done result

theorem writeDocument_eq (path : String) (value : Json) :
    writeDocument path value =
      Drafting.beginning.rest path (Bytes.ofText value.pretty) := by
  refine congrArg (Routine.ask _) (funext fun made => ?_)
  cases made with
  | error fault => rfl
  | ok done =>
    refine congrArg (Routine.ask _) (funext fun opened => ?_)
    cases opened with
    | error fault => rfl
    | ok number =>
      refine congrArg (Routine.ask _) (funext fun filled => ?_)
      cases filled with
      | error fault => rfl
      | ok done =>
        refine congrArg (Routine.ask _) (funext fun named => ?_)
        cases named <;> rfl

/-! ## Steps -/

/-- What a step of writing may show, where it leads to and how it leaves the
disk. -/
inductive Stride (path : String) (home : Place) (name : String) (bytes : Bytes)
    (fortune : Fortune) (disk : Disk) :
    Drafting → Option (Exchange Files.Request.Answer) → Drafting →
      Disk → Prop where
  | begun {made : Disk} : fortune = .serves → Grown disk made →
    (∀ other, ¬ other <+: home → made.sight? other = disk.sight? other) →
    made.IsOpen home → (disk.IsOpen home → made = disk) →
    Stride path home name bytes fortune disk .beginning
      (some ⟨.makeFolders ((Files.parent? path).getD ""), .ok ()⟩) .opening made
  | notBegun {made : Disk} (fault : Fault) : Grown disk made →
    (∀ other, ¬ other <+: home → made.sight? other = disk.sight? other) →
    (fortune = .serves → ¬ disk.IsReachable home) →
    Stride path home name bytes fortune disk .beginning
      (some ⟨.makeFolders ((Files.parent? path).getD ""), .error fault⟩)
      (.ended (.error (.files fault.message))) made
  | opened {number : Nat} {after : Disk} :
    fortune = .serves → disk.IsOpen home →
    IsWritten disk after (home ++ [name ++ ".tmp"]) number [] →
    Stride path home name bytes fortune disk .opening
      (some ⟨.truncate (draftPath path), .ok number⟩) (.filling number) after
  | notOpened (fault : Fault) :
    fortune.fault? = some fault ∨
      fortune = .serves ∧
        (disk.IsOpen home → ¬ disk.IsVacant (home ++ [name ++ ".tmp"])) →
    Stride path home name bytes fortune disk .opening
      (some ⟨.truncate (draftPath path), .error fault⟩)
      (.ended (.error (.files fault.message))) disk
  | filled (number : Nat) : fortune = .serves →
    Stride path home name bytes fortune disk (.filling number)
      (some ⟨.write number bytes, .ok ()⟩) .naming (disk.write number bytes)
  | notFilled (number done : Nat) (reason : String) :
    fortune = .breaksOff reason done →
    Stride path home name bytes fortune disk (.filling number)
      (some ⟨.write number bytes, .error (.other reason)⟩)
      (.ended (.error (.files reason))) (disk.write number (bytes.take done))
  | named {number : Nat} : fortune = .serves → disk.IsOpen home →
    disk.entryAt? (home ++ [name ++ ".tmp"]) = some (.file number) →
    disk.sight? (home ++ [name]) ≠ some .folder →
    Stride path home name bytes fortune disk .naming
      (some ⟨.rename (draftPath path) path, .ok ()⟩) (.ended (.ok ()))
      ((disk.drop (home ++ [name ++ ".tmp"])).put (home ++ [name])
        (.file number))
  | notNamed (fault : Fault) :
    fortune.fault? = some fault ∨
      fortune = .serves ∧ (disk.IsOpen home →
        disk.entryAt? (home ++ [name ++ ".tmp"]) = none ∨
          disk.sight? (home ++ [name]) = some .folder ∧ fault = .isFolder) →
    Stride path home name bytes fortune disk .naming
      (some ⟨.rename (draftPath path) path, .error fault⟩)
      (.dropping fault) disk
  | dropped {after : Disk} (fault : Fault) (answer : Except Fault Unit) :
    after = disk ∨ after = disk.drop (home ++ [name ++ ".tmp"]) →
    Stride path home name bytes fortune disk (.dropping fault)
      (some ⟨.remove (draftPath path), answer⟩)
      (.ended (.error (.files fault.message))) after
  | ended (result : Except StoreError Unit) :
    Stride path home name bytes fortune disk (.ended result) none
      (.ended result) disk

section Steps

variable {disk : Disk} {folder name : String}

/-- Whether a stage of writing under a name in a folder leads on by one of the
strides. -/
def LeadsOn (folder name : String) (bytes : Bytes)
    (fortune : Fortune) (disk : Disk) (stage : Drafting) : Prop :=
  let state := (stage.rest (join folder name) bytes, disk)
  ∃ next, (turn fortune state).1 = Drafting.rest (join folder name) bytes next ∧
    Stride (join folder name) (placeOf disk.working folder) name bytes
      fortune disk stage (told? fortune state) next (turn fortune state).2

theorem stride_beginning (plain : IsPlain name) (bytes : Bytes)
    (fortune : Fortune) :
    LeadsOn folder name bytes fortune disk .beginning := by
  have toHome := plain.placeOf_parent?_join disk.working folder
  cases fortune with
  | serves =>
    have grown :=
      Files.Disk.grown_makeFolders disk
        ((Files.parent? (join folder name)).getD "")
    have kept := Files.Disk.sight?_makeFolders_of_aside toHome
    have stays := Files.Disk.makeFolders_of_isOpen toHome
    have reach : disk.IsReachable (placeOf disk.working folder) ↔
        (disk.makeFolders ((Files.parent? (join folder name)).getD "")).1 =
          .ok () := by
      rw [Files.Disk.makeFolders, toHome]
      rfl
    rcases making :
        disk.makeFolders ((Files.parent? (join folder name)).getD "") with
      ⟨⟨fault⟩ | ⟨⟨⟩⟩, made⟩
    all_goals
      rw [making] at grown kept stays reach
      simp only [LeadsOn, Drafting.rest, beginDraft, ask,
        Routine.call_bind, turn, told?, Files.Disk.meet,
        Files.Disk.answer, making]
    · exact ⟨.ended _, rfl, .notBegun fault grown kept fun _ reachable => by
        cases reach.1 reachable⟩
    · exact ⟨.opening, rfl,
        .begun rfl grown kept (Files.Disk.isOpen_of_makeFolders toHome making)
        fun opened => (Prod.mk.inj (stays opened)).2⟩
  | breaksOff reason done =>
    have grown :=
      Files.Disk.grown_makeAlong []
        ((placeOf disk.working folder).take done) disk
    have kept (other : Place)
        (aside : ¬ other <+: placeOf disk.working folder) :
        (Files.Disk.makeAlong [] ((placeOf disk.working folder).take done)
            disk).2.sight? other =
          disk.sight? other := by
      have aside' : ¬ other <+: [] ++ (placeOf disk.working folder).take done :=
        fun within => aside (within.trans (List.take_prefix _ _))
      refine Files.Disk.sight?_congr
        (Files.Disk.entryAt?_makeAlong_of_aside aside' disk) fun number _ => ?_
      rw [Files.Disk.content, grown.contents, Files.Disk.content]
    rw [← toHome] at grown kept
    exact ⟨.ended _, rfl, .notBegun _ grown (toHome ▸ kept) (by rintro ⟨⟩)⟩

theorem stride_opening (plain : IsPlain name) (sound : disk.Sound)
    (bytes : Bytes) (fortune : Fortune) :
    LeadsOn folder name bytes fortune disk .opening := by
  have leads := placeOf_draftPath plain disk.working folder
  cases fortune with
  | serves =>
    rcases opening : disk.truncate (draftPath (join folder name)) with
      ⟨⟨fault⟩ | ⟨number⟩, after⟩
    all_goals
      simp only [LeadsOn, Drafting.rest, openDraft, ask,
        Routine.call_bind, turn, told?, Files.Disk.meet,
        Files.Disk.answer, opening]
    · obtain ⟨rfl, taken⟩ := Files.Disk.truncate_error leads opening
      refine ⟨.ended _, rfl,
        .notOpened fault (.inr ⟨rfl, fun opened vacant => ?_⟩)⟩
      exact (taken opened).elim vacant.1 vacant.2
    · obtain ⟨opened, written⟩ := sound.isWritten_truncate leads opening
      exact ⟨.filling number, rfl, .opened rfl opened written⟩
  | breaksOff reason done => exact ⟨.ended _, rfl, .notOpened _ (.inl rfl)⟩

theorem stride_filling (bytes : Bytes) (number : Nat) (fortune : Fortune) :
    LeadsOn folder name bytes fortune disk (.filling number) := by
  cases fortune with
  | serves => exact ⟨.naming, rfl, .filled number rfl⟩
  | breaksOff reason done =>
    exact ⟨.ended _, rfl, .notFilled number done reason rfl⟩

/-- Where a draft is a file or nothing, renaming it succeeds just if there is a
file, and no folder has the name. -/
theorem stride_naming (plain : IsPlain name)
    (vacant : disk.IsVacant (placeOf disk.working folder ++ [name ++ ".tmp"]))
    (bytes : Bytes) (fortune : Fortune) :
    LeadsOn folder name bytes fortune disk .naming := by
  have fromDraft := placeOf_draftPath plain disk.working folder
  have leads := plain.placeOf_join disk.working folder
  cases fortune with
  | serves =>
    simp only [LeadsOn, Drafting.rest, nameDraft, ask,
      Routine.call_bind, turn, told?, Files.Disk.meet, Files.Disk.answer]
    by_cases opened : disk.IsOpen (placeOf disk.working folder)
    · cases found :
        disk.entryAt? (placeOf disk.working folder ++ [name ++ ".tmp"]) with
      | none =>
        rw [Files.Disk.rename_of_nothing fromDraft leads opened found]
        exact ⟨.dropping _, rfl, .notNamed _ (.inr ⟨rfl, fun _ => .inl found⟩)⟩
      | some entry =>
        obtain ⟨number, rfl⟩ := vacant.exists_file found
        rw [Files.Disk.rename_of_file fromDraft leads opened found]
        by_cases folderThere :
          disk.sight? (placeOf disk.working folder ++ [name]) = some .folder
        · rw [if_pos folderThere]
          exact ⟨.dropping _, rfl,
            .notNamed _ (.inr ⟨rfl, fun _ => .inr ⟨folderThere, rfl⟩⟩)⟩
        · rw [if_neg folderThere]
          exact ⟨.ended _, rfl, .named rfl opened found folderThere⟩
    · obtain ⟨fault, refused⟩ :
          ∃ fault,
            disk.rename (draftPath (join folder name)) (join folder name) =
            (.error fault, disk) := by
        unfold Files.Disk.rename
        split
        · exact ⟨_, rfl⟩
        · exact ⟨_, rfl⟩
        · rename_i reached _ way _
          exact absurd (Files.Disk.isOpen_of_reach fromDraft way).2 opened
      rw [refused]
      exact ⟨.dropping _, rfl,
        .notNamed _ (.inr ⟨rfl, fun opened' => absurd opened' opened⟩)⟩
  | breaksOff reason done => exact ⟨.dropping _, rfl, .notNamed _ (.inl rfl)⟩

theorem stride_dropping (plain : IsPlain name) (bytes : Bytes) (fault : Fault)
    (fortune : Fortune) :
    LeadsOn folder name bytes fortune disk (.dropping fault) := by
  cases fortune with
  | serves =>
    refine ⟨.ended _, rfl, .dropped fault _ ?_⟩
    have leads := placeOf_draftPath plain disk.working folder
    change (disk.remove (draftPath (join folder name))).2 = disk ∨
      (disk.remove (draftPath (join folder name))).2 = _
    unfold Files.Disk.remove
    split
    · exact .inl rfl
    · rename_i reached way
      obtain ⟨rfl, -⟩ := Files.Disk.isOpen_of_reach leads way
      split
      · exact .inl rfl
      · exact .inl rfl
      · exact .inr rfl
  | breaksOff reason done => exact ⟨.ended _, rfl, .dropped fault _ (.inl rfl)⟩

/-- Every step of writing is one of the strides. -/
theorem exists_stride (plain : IsPlain name) (sound : disk.Sound)
    {stage : Drafting} (vacant : stage = .naming →
      disk.IsVacant (placeOf disk.working folder ++ [name ++ ".tmp"]))
    (bytes : Bytes) (fortune : Fortune) :
    LeadsOn folder name bytes fortune disk stage := by
  cases stage with
  | beginning => exact stride_beginning plain bytes fortune
  | opening => exact stride_opening plain sound bytes fortune
  | filling number => exact stride_filling bytes number fortune
  | naming => exact stride_naming plain (vacant rfl) bytes fortune
  | dropping fault => exact stride_dropping plain bytes fault fortune
  | ended result => exact ⟨.ended result, rfl, .ended result⟩

end Steps

section Effects

variable {path name : String} {home : Place} {bytes : Bytes} {fortune : Fortune}
  {disk after : Disk} {stage next : Drafting}
  {shown : Option (Exchange Files.Request.Answer)}

theorem draft_apart (home : Place) (name : String) :
    home ++ [name ++ ".tmp"] ≠ home ++ [name] := by
  intro same
  have aside := draft_aside home name
  rw [same] at aside
  exact aside List.prefix_rfl

theorem Stride.sound
    (stride : Stride path home name bytes fortune disk stage shown next after)
    (sound : disk.Sound) : after.Sound := by
  cases stride with
  | begun served grown kept opened stays => exact grown.sound sound
  | notBegun fault grown kept cause => exact grown.sound sound
  | opened served opened written => exact written.sound
  | notOpened fault cause => exact sound
  | filled number served => exact sound.write number bytes
  | notFilled number done reason failed => exact sound.write number _
  | named served opened found free =>
    exact ((sound.isWritten_self found).rename (by simp) (by simp)
      (draft_apart home name)).1
  | notNamed fault cause => exact sound
  | dropped fault answer left =>
    rcases left with rfl | rfl
    · exact sound
    · exact sound.drop (by simp)
  | ended result => exact sound

theorem Stride.working
    (stride : Stride path home name bytes fortune disk stage shown next after) :
    after.working = disk.working := by
  cases stride with
  | begun served grown kept opened stays => exact grown.working
  | notBegun fault grown kept cause => exact grown.working
  | opened served opened written => exact written.alike.working
  | dropped fault answer left => rcases left with rfl | rfl <;> rfl
  | _ => rfl

/-- What is neither the file nor its draft, nor above them, is left alone,
unless the draft that is filled has been given its name. -/
theorem Stride.elsewhere
    (stride : Stride path home name bytes fortune disk stage shown next after)
    (sound : disk.Sound) {other : Place}
    (aside : ¬ home ++ [name ++ ".tmp"] <+: other)
    (different : other ≠ home ++ [name]) (off : ¬ other <+: home)
    (apart : ∀ number, stage = .filling number →
      disk.entryAt? other ≠ some (.file number)) :
    after.sight? other = disk.sight? other := by
  cases stride with
  | begun served grown kept opened stays => exact kept other off
  | notBegun fault grown kept cause => exact kept other off
  | opened served opened written => exact written.alike.elsewhere other aside
  | filled number served =>
    exact Files.Disk.sight?_write (apart number rfl) bytes
  | notFilled number done reason failed =>
    exact Files.Disk.sight?_write (apart number rfl) _
  | named served opened found free =>
    exact ((sound.isWritten_self found).rename (by simp) (by simp)
        (draft_apart home name)).2.2.2.2
      other aside different
  | dropped fault answer left =>
    rcases left with rfl | rfl
    · rfl
    · exact Files.Disk.sight?_drop (by simp) aside
  | _ => rfl

/-- The file is left alone by every step but the one that gives the draft its
name, unless the draft that is filled has been given its name already. -/
theorem Stride.sight?_target
    (stride : Stride path home name bytes fortune disk stage shown next after)
    (unnamed : shown.any Files.names = false)
    (apart : ∀ number, stage = .filling number →
      disk.entryAt? (home ++ [name]) ≠ some (.file number)) :
    after.sight? (home ++ [name]) = disk.sight? (home ++ [name]) := by
  cases stride with
  | begun served grown kept opened stays =>
    exact kept _ (not_prefix_self home name)
  | notBegun fault grown kept cause => exact kept _ (not_prefix_self home name)
  | opened served opened written =>
    exact written.alike.elsewhere _ (draft_aside home name)
  | filled number served =>
    exact Files.Disk.sight?_write (apart number rfl) bytes
  | notFilled number done reason failed =>
    exact Files.Disk.sight?_write (apart number rfl) _
  | named served opened found free => cases unnamed
  | dropped fault answer left =>
    rcases left with rfl | rfl
    · rfl
    · exact Files.Disk.sight?_drop (by simp) (draft_aside home name)
  | _ => rfl

/-- The step that gives the draft the name of the file. -/
structure Naming (home : Place) (name : String) (disk after : Disk)
    (stage next : Drafting) :
    Prop where
  stage : stage = .naming
  next : next = .ended (.ok ())
  opened : disk.IsOpen home
  file :
    ∃ number, disk.entryAt? (home ++ [name ++ ".tmp"]) = some (.file number)
  target : after.sight? (home ++ [name]) =
    disk.sight? (home ++ [name ++ ".tmp"])
  draft : after.sight? (home ++ [name ++ ".tmp"]) = none

theorem Stride.naming
    (stride : Stride path home name bytes fortune disk stage shown next after)
    (sound : disk.Sound) (named : shown.any Files.names = true) :
    Naming home name disk after stage next := by
  cases stride with
  | named served opened found free =>
    obtain ⟨-, -, target, draft, -⟩ :=
      (sound.isWritten_self found).rename (by simp) (by simp)
        (draft_apart home name)
    refine ⟨rfl, rfl, opened, ⟨_, found⟩, target.trans ?_, draft⟩
    exact (Files.Disk.sight?_of_entryAt? found).symm
  | _ => cases named

theorem Stride.isOpen
    (stride : Stride path home name bytes fortune disk stage shown next after)
    (sound : disk.Sound) (opened : disk.IsOpen home) : after.IsOpen home := by
  cases stride with
  | begun served grown kept openedAfter stays => exact openedAfter
  | notBegun fault grown kept cause => exact opened.grown grown
  | opened served opened written => exact isOpen_of_alike written.alike opened
  | filled number served => exact opened.write number bytes
  | notFilled number done reason failed => exact opened.write number _
  | named served opened found free =>
    intro front within
    obtain ⟨-, -, -, -, elsewhere⟩ :=
      (sound.isWritten_self found).rename (by simp) (by simp)
        (draft_apart home name)
    rw [elsewhere front fun below => not_prefix_self _ _ (below.trans within)]
    · exact opened front within
    · rintro rfl
      exact not_prefix_self _ _ within
  | dropped fault answer left =>
    rcases left with rfl | rfl
    · exact opened
    · intro front within
      rw [Files.Disk.sight?_drop (by simp) fun below =>
        not_prefix_self _ _ (below.trans within)]
      exact opened front within
  | _ => exact opened

end Effects

/-! ## One writer -/

/-- Whether the draft has taken the name of the file. -/
def Drafting.isNamed : Drafting → Bool
  | .ended (.ok ()) => true
  | _ => false

/-- What is in the draft in a stage, if nobody else touches it. -/
def Drafting.Fits (home : Place) (name : String) (bytes : Bytes) (disk : Disk) :
    Drafting → Prop
  | .opening => disk.IsOpen home
  | .filling number => disk.IsOpen home ∧
    disk.entryAt? (home ++ [name ++ ".tmp"]) = some (.file number) ∧
    disk.content number = []
  | .naming => disk.IsOpen home ∧
    disk.sight? (home ++ [name ++ ".tmp"]) = some (.file bytes)
  | _ => True

/-- Where one writer has got to who began to write a document on some disk and
is alone there. -/
structure Drafted (home : Place) (name : String) (bytes : Bytes) (start : Disk)
    (stage : Drafting) (disk : Disk) : Prop where
  sound : disk.Sound
  working : disk.working = start.working
  fits : stage.Fits home name bytes disk
  target : disk.sight? (home ++ [name]) =
    if stage.isNamed then some (.file bytes) else start.sight? (home ++ [name])
  elsewhere : ∀ other,
    other ≠ home ++ [name] → ¬ home ++ [name ++ ".tmp"] <+: other →
    ¬ other <+: home → disk.sight? other = start.sight? other

section Alone

variable {path name : String} {home : Place} {bytes : Bytes} {fortune : Fortune}
  {start disk after : Disk} {stage next : Drafting}
  {shown : Option (Exchange Files.Request.Answer)}

theorem drafted_beginning (sound : start.Sound) :
    Drafted home name bytes start .beginning start :=
  ⟨sound, rfl, trivial, rfl, fun _ _ _ _ => rfl⟩

theorem Stride.isNamed_eq
    (stride : Stride path home name bytes fortune disk stage shown next after)
    (unnamed : shown.any Files.names = false) :
    next.isNamed = stage.isNamed := by
  cases stride with
  | named served opened found free => cases unnamed
  | _ => rfl

theorem Drafting.Fits.isVacant
    (fits : Drafting.naming.Fits home name bytes disk) :
    disk.IsVacant (home ++ [name ++ ".tmp"]) :=
  Files.Disk.isVacant_of_sight? fits.2

theorem Drafting.Fits.apart (sound : disk.Sound) {number : Nat}
    (fits : (Drafting.filling number).Fits home name bytes disk) {other : Place}
    (aside : ¬ home ++ [name ++ ".tmp"] <+: other) :
    disk.entryAt? other ≠ some (.file number) := by
  intro found
  obtain rfl := sound.apart _ _ number fits.2.1 found
  exact aside List.prefix_rfl

theorem Stride.fits
    (stride : Stride path home name bytes fortune disk stage shown next after)
    (sound : disk.Sound) (fits : stage.Fits home name bytes disk) :
    next.Fits home name bytes after := by
  cases stride with
  | begun served grown kept opened stays => exact opened
  | opened served opened written =>
    exact ⟨isOpen_of_alike written.alike opened, written.entry, written.content⟩
  | filled number served =>
    obtain ⟨opened, found, empty⟩ := fits
    refine ⟨opened.write number bytes,
      Files.Disk.sight?_eq_file_iff.2 ⟨number, found, ?_⟩⟩
    rw [Files.Disk.write, empty, List.drop_nil, List.append_nil]
    simp [Files.Disk.content, sound.stored _ number found]
  | _ => trivial

/-- A writer who is alone fills the draft first and then gives it the name of
the file, and all else stays as it is. -/
theorem Drafted.step (drafted : Drafted home name bytes start stage disk)
    (stride : Stride path home name bytes fortune disk stage shown next after) :
    Drafted home name bytes start next after := by
  have apart {other : Place} (aside : ¬ home ++ [name ++ ".tmp"] <+: other)
      (number : Nat) (filling : stage = .filling number) :
        disk.entryAt? other ≠ some (.file number) := by
    have fits := drafted.fits
    rw [filling] at fits
    exact fits.apart drafted.sound aside
  refine ⟨stride.sound drafted.sound, stride.working.trans drafted.working,
    stride.fits drafted.sound drafted.fits, ?_,
    fun other different aside off => ?_⟩
  · cases named : shown.any Files.names with
    | true =>
      have naming := stride.naming drafted.sound named
      have fits := drafted.fits
      rw [naming.stage] at fits
      rw [naming.target, fits.2, naming.next]
      rfl
    | false =>
      rw [stride.sight?_target named (apart (draft_aside home name)),
        stride.isNamed_eq named]
      exact drafted.target
  · rw [stride.elsewhere drafted.sound aside different off (apart aside)]
    exact drafted.elsewhere other different aside off

theorem Drafted.exists_stride {folder : String} (plain : IsPlain name)
    (drafted : Drafted (placeOf start.working folder) name bytes
      start stage disk)
    (fortune : Fortune) :
    let state := (stage.rest (join folder name) bytes, disk)
    ∃ next,
      (turn fortune state).1 = Drafting.rest (join folder name) bytes next ∧
      Stride (join folder name) (placeOf start.working folder) name bytes
        fortune disk stage (told? fortune state)
        next (turn fortune state).2 := by
  have vacant (naming : stage = .naming) :
      disk.IsVacant (placeOf disk.working folder ++ [name ++ ".tmp"]) := by
    have fits := drafted.fits
    rw [naming, ← drafted.working] at fits
    exact fits.isVacant
  have leadsOn : LeadsOn folder name bytes fortune disk stage :=
    Store.exists_stride plain drafted.sound vacant bytes fortune
  rwa [LeadsOn, drafted.working] at leadsOn

/-- Whether nothing is in the way of what is left to do in a stage. -/
def Drafting.Unhindered (home : Place) (name : String) (disk : Disk) :
    Drafting → Prop
  | .beginning => disk.IsReachable home ∧
    disk.IsVacant (home ++ [name ++ ".tmp"]) ∧
    disk.sight? (home ++ [name]) ≠ some .folder
  | .opening => disk.IsVacant (home ++ [name ++ ".tmp"]) ∧
    disk.sight? (home ++ [name]) ≠ some .folder
  | .filling _ => disk.sight? (home ++ [name]) ≠ some .folder
  | .naming => disk.sight? (home ++ [name]) ≠ some .folder
  | .dropping _ => False
  | .ended result => result = .ok ()

def Drafting.stepsLeft : Drafting → Nat
  | .beginning => 4
  | .opening => 3
  | .filling _ => 2
  | .naming => 1
  | .dropping _ => 1
  | .ended _ => 0

/-- With good fortune and nothing in the way each step comes nearer to the
end. -/
theorem Stride.unhindered
    (stride : Stride path home name bytes .serves disk stage shown next after)
    (sound : disk.Sound) (fits : stage.Fits home name bytes disk)
    (unhindered : stage.Unhindered home name disk) :
    next.Unhindered home name after ∧ next.stepsLeft = stage.stepsLeft - 1 := by
  cases stride with
  | begun served grown kept opened stays =>
    obtain ⟨-, vacant, free⟩ := unhindered
    refine ⟨⟨vacant.congr (kept _ (not_prefix_self _ _)), ?_⟩, rfl⟩
    rwa [kept _ (not_prefix_self _ _)]
  | notBegun fault grown kept cause => exact absurd unhindered.1 (cause rfl)
  | opened served opened written =>
    refine ⟨?_, rfl⟩
    rw [Drafting.Unhindered, written.alike.elsewhere _ (draft_aside home name)]
    exact unhindered.2
  | notOpened fault cause =>
    rcases cause with failed | ⟨-, taken⟩
    · cases failed
    · exact absurd unhindered.1 (taken fits)
  | filled number served =>
    refine ⟨?_, rfl⟩
    rw [Drafting.Unhindered,
      Files.Disk.sight?_write (fits.apart sound (draft_aside home name)) bytes]
    exact unhindered
  | notFilled number done reason failed => cases failed
  | named served opened found free => exact ⟨rfl, rfl⟩
  | notNamed fault cause =>
    rcases cause with failed | ⟨-, taken⟩
    · cases failed
    · rcases taken fits.1 with gone | ⟨folder, -⟩
      · exact nomatch (Files.Disk.sight?_eq_none_iff.2 gone).symm.trans fits.2
      · exact absurd folder unhindered
  | dropped fault answer left => cases unhindered
  | ended result => exact ⟨unhindered, rfl⟩

theorem Drafting.Unhindered.eq_ended
    (unhindered : stage.Unhindered home name disk)
    (finished : stage.stepsLeft = 0) : stage = .ended (.ok ()) := by
  cases stage with
  | ended result => exact congrArg _ unhindered
  | _ => cases finished

end Alone

end Switchyard.Store
