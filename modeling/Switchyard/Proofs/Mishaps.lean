import Switchyard.Proofs.Drafting
import Switchyard.Proofs.StoreCalls

/-!
# Writing with mishaps

One process after the other writes policies, statuses and selections to the
files of a folder. Any step may break off, and a process may stop before any
step and leave a draft behind. At every moment a file holds the whole text of
the last write that came as far as giving the draft the name of the file. A
write that fails has left its file alone, and what is left in a draft makes no
difference to anything that happens later.
-/

namespace Switchyard.Files

section Undergoing

variable {Result : Type}

/-- Carries a piece of work on for as many steps as there are fortunes. -/
def undergo (fortunes : List Fortune) (state : Work Result × Disk) :
    Work Result × Disk :=
  fortunes.foldl (fun state fortune => turn fortune state) state

/-- The result of a piece of work that is over. -/
def result? : Work Result → Option Result
  | .done result => some result
  | .ask _ _ => none

/-- Whether something is given another name in those steps. -/
def renames : List Fortune → Work Result × Disk → Bool
  | [], _ => false
  | fortune :: later, state =>
    (told? fortune state).any names || renames later (turn fortune state)

theorem undergo_cons (fortune : Fortune) (later : List Fortune)
    (state : Work Result × Disk) :
    undergo (fortune :: later) state = undergo later (turn fortune state) := rfl

theorem undergo_append (former latter : List Fortune)
    (state : Work Result × Disk) :
    undergo (former ++ latter) state = undergo latter (undergo former state) :=
  List.foldl_append

@[simp]
theorem undergo_done (fortunes : List Fortune) (result : Result) (disk : Disk) :
    undergo fortunes (.done result, disk) = (.done result, disk) := by
  induction fortunes with
  | nil => rfl
  | cons fortune later laterFact => exact laterFact

@[simp]
theorem renames_done (fortunes : List Fortune) (result : Result) (disk : Disk) :
    renames fortunes ((.done result : Work Result), disk) = false := by
  induction fortunes with
  | nil => rfl
  | cons fortune later laterFact => exact laterFact

theorem result?_undergo {state : Work Result × Disk} {result : Result}
    (fortunes : List Fortune) (ended : result? state.1 = some result) :
    result? (undergo fortunes state).1 = some result := by
  obtain ⟨work, disk⟩ := state
  cases work with
  | done known => rwa [undergo_done]
  | ask request resume => cases ended

end Undergoing

end Switchyard.Files

namespace Switchyard.Store

open Files (Disk Fault Fortune IsPlain Place Work placeOf join turn told?
  undergo renames)
open Files.Disk (IsWritten)

/-- What may be written to the files of a folder. -/
inductive Write where
  | update (policy : Policy)
  | record (status : StatusRecord)
  | save (selection : Selection)

def fileNames : List String :=
  ["autoswitch.json", "autoswitch-status.json", "selections.json"]

namespace Write

def name : Write → String
  | .update _ => "autoswitch.json"
  | .record _ => "autoswitch-status.json"
  | .save _ => "selections.json"

def work (folder : Folder) (profile : Option String) :
    Write → Work (Except StoreError Unit)
  | .update policy => folder.update policy
  | .record status => folder.record status
  | .save selection =>
    (SelectionFile.ofFolder folder.path profile).save selection

/-- The selections that are read from the file of a folder. -/
def selections (folder : Folder) (found : Except Fault Bytes) :
    Except StoreError SelectionMap :=
  interpret (join folder.path "selections.json") SelectionMap.ofJson?
    NameMap.empty found

/-- The text that a write is to put in its file. A selection is added to those
that are there. -/
def text? (folder : Folder) (disk : Disk) : Write → Except StoreError String
  | .update policy => .ok policy.toJson.pretty
  | .record status => .ok status.toJson.pretty
  | .save selection =>
    (selections folder (disk.read (join folder.path "selections.json"))).map
      fun entries => (SelectionMap.toJson (entries.save selection)).pretty

end Write

section Document

variable {name folder : String} {start disk : Disk} {bytes : Bytes}
  {stage : Drafting}

/-- A stage of writing leads to another stage, whatever the fortunes. -/
theorem exists_drafted (plain : IsPlain name) (fortunes : List Fortune)
    (drafted : Drafted (placeOf start.working folder) name bytes
      start stage disk) :
    ∃ next, (undergo fortunes (stage.rest (join folder name) bytes, disk)).1 =
        Drafting.rest (join folder name) bytes next ∧
      Drafted (placeOf start.working folder) name bytes start next
        (undergo fortunes (stage.rest (join folder name) bytes, disk)).2 ∧
      next.isNamed =
        (stage.isNamed ||
          renames fortunes (stage.rest (join folder name) bytes, disk)) := by
  induction fortunes generalizing stage disk with
  | nil => exact ⟨stage, rfl, drafted, (Bool.or_false _).symm⟩
  | cons fortune later laterFact =>
    obtain ⟨between, rest, stride⟩ := drafted.exists_stride plain fortune
    obtain ⟨next, restAfter, draftedAfter, isNamed⟩ :=
      laterFact (drafted.step stride)
    have state : turn fortune (stage.rest (join folder name) bytes, disk) =
        (between.rest (join folder name) bytes,
          (turn fortune (stage.rest (join folder name) bytes, disk)).2) := by
      rw [← rest]
    rw [← state] at restAfter draftedAfter isNamed
    refine ⟨next, restAfter, draftedAfter, isNamed.trans ?_⟩
    rw [renames, ← Bool.or_assoc]
    congr 1
    cases named :
      (told? fortune (stage.rest (join folder name) bytes, disk)).any
        Files.names with
    | true => rw [(stride.naming drafted.sound named).next, Bool.or_true]; rfl
    | false => rw [stride.isNamed_eq named, Bool.or_false]

/-- With good fortune and nothing in the way each step leads on. -/
theorem exists_unhindered (plain : IsPlain name) (count : Nat)
    (drafted : Drafted (placeOf start.working folder) name bytes
      start stage disk)
    (unhindered : stage.Unhindered (placeOf start.working folder) name disk) :
    let state :=
      undergo (List.replicate count .serves)
        (stage.rest (join folder name) bytes, disk)
    ∃ next, state.1 = Drafting.rest (join folder name) bytes next ∧
      next.Unhindered (placeOf start.working folder) name state.2 ∧
      next.stepsLeft = stage.stepsLeft - count := by
  induction count generalizing stage disk with
  | zero => exact ⟨stage, rfl, unhindered, rfl⟩
  | succ count countFact =>
    obtain ⟨between, rest, stride⟩ := drafted.exists_stride plain .serves
    obtain ⟨onward, nearer⟩ :=
      stride.unhindered drafted.sound drafted.fits unhindered
    obtain ⟨next, restAfter, unhinderedAfter, left⟩ :=
      countFact (drafted.step stride) onward
    rw [← rest] at restAfter unhinderedAfter
    refine ⟨next, restAfter, unhinderedAfter, ?_⟩
    rw [left, nearer]
    omega

/-- With good fortune and nothing in the way a document is written in four
steps. -/
theorem result?_writeDocument (plain : IsPlain name) (sound : disk.Sound)
    (unhindered :
      Drafting.beginning.Unhindered (placeOf disk.working folder) name disk)
    (value : Json) :
    Files.result? (undergo (List.replicate 4 .serves)
      (writeDocument (join folder name) value, disk)).1 = some (.ok ()) := by
  obtain ⟨next, rest, unhindered, left⟩ := exists_unhindered plain 4
    (drafted_beginning sound) unhindered
  rw [← writeDocument_eq, unhindered.eq_ended left] at rest
  rw [rest]
  rfl

theorem Drafting.rest_eq_ok_iff {path : String} :
    stage.rest path bytes = .done (.ok ()) ↔ stage.isNamed = true := by
  cases stage with
  | ended result =>
    rcases result with error | ⟨⟩
    · exact ⟨nofun, nofun⟩
    · exact ⟨fun _ => rfl, fun _ => rfl⟩
  | _ => exact ⟨nofun, nofun⟩

end Document

/-- What some fortunes make of a write that began on some disk: either its draft
was given the name of the file, which then holds the whole text, or the file was
left alone. -/
structure Undergone (folder name : String) (text? : Except StoreError String)
    (disk : Disk) (renamed : Bool)
    (state : Work (Except StoreError Unit) × Disk) : Prop where
  sound : state.2.Sound
  working : state.2.working = disk.working
  landed : renamed = true → state.1 = .done (.ok ()) ∧
    ∃ text, text? = .ok text ∧
    state.2.sight? (placeOf disk.working folder ++ [name]) =
      some (.file (Bytes.ofText text))
  spared : renamed = false → state.1 ≠ .done (.ok ()) ∧
    state.2.sight? (placeOf disk.working folder ++ [name]) =
      disk.sight? (placeOf disk.working folder ++ [name])
  elsewhere : ∀ other, other ≠ placeOf disk.working folder ++ [name] →
    ¬ placeOf disk.working folder ++ [name ++ ".tmp"] <+: other →
    ¬ other <+: placeOf disk.working folder →
    state.2.sight? other = disk.sight? other

section Writes

variable {folder : Folder} {profile : Option String} {disk : Disk}
  {fortunes : List Fortune}

theorem undergone_writeDocument (sound : disk.Sound) {folder name : String}
    (plain : IsPlain name) (value : Json) (fortunes : List Fortune) :
    Undergone folder name (.ok value.pretty) disk
      (renames fortunes (writeDocument (join folder name) value, disk))
      (undergo fortunes (writeDocument (join folder name) value, disk)) := by
  obtain ⟨stage, rest, drafted, isNamed⟩ := exists_drafted plain fortunes
    (drafted_beginning sound)
  rw [← writeDocument_eq] at rest drafted isNamed
  have renamed : stage.isNamed =
      renames fortunes (writeDocument (join folder name) value, disk) := isNamed
  rw [← renamed]
  refine ⟨drafted.sound, drafted.working, fun landed => ⟨?_, _, rfl, ?_⟩,
    fun spared => ⟨?_, ?_⟩, drafted.elsewhere⟩
  · exact rest.trans (Drafting.rest_eq_ok_iff.2 landed)
  · rw [drafted.target, if_pos landed]
  · rw [rest, Ne, Drafting.rest_eq_ok_iff, spared]
    exact Bool.false_ne_true
  · rw [drafted.target, spared]
    rfl

/-- A write that is over before its draft has the name of the file has changed
nothing. -/
theorem undergone_idle (sound : disk.Sound) {folder name : String}
    {text? : Except StoreError String} {rest : Work (Except StoreError Unit)}
    (unfinished : rest ≠ .done (.ok ())) :
    Undergone folder name text? disk false (rest, disk) :=
  ⟨sound, rfl, nofun, fun _ => ⟨unfinished, rfl⟩, fun _ _ _ _ => rfl⟩

theorem isPlain_selectionsName : IsPlain "selections.json" :=
  ⟨by decide, by decide, by decide⟩

/-- What is left of saving a selection when the others are read. -/
def Write.saveWith (folder : Folder) (selection : Selection) :
    Except StoreError SelectionMap → Work (Except StoreError Unit)
  | .error error => .done (.error error)
  | .ok entries => writeDocument (join folder.path "selections.json")
      (SelectionMap.toJson (entries.save selection))

theorem Write.work_save (folder : Folder) (profile : Option String)
    (selection : Selection) :
    (Write.save selection).work folder profile =
      .ask (.read (join folder.path "selections.json")) fun found =>
        saveWith folder selection (selections folder found) := by
  unfold saveWith
  rfl

theorem undergone_saveWith (sound : disk.Sound) (selection : Selection)
    (loaded : Except StoreError SelectionMap) :
    Undergone folder.path "selections.json"
      (loaded.map fun entries =>
        (SelectionMap.toJson (entries.save selection)).pretty) disk
      (renames fortunes (Write.saveWith folder selection loaded, disk))
      (undergo fortunes (Write.saveWith folder selection loaded, disk)) := by
  cases loaded with
  | error error =>
    rw [Write.saveWith, Files.renames_done, Files.undergo_done]
    exact undergone_idle sound nofun
  | ok entries =>
    exact undergone_writeDocument sound isPlain_selectionsName _ fortunes

/-- Whatever is written, and whatever the fortunes. -/
theorem Write.undergone (sound : disk.Sound) (write : Write) :
    Undergone folder.path write.name (write.text? folder disk) disk
      (renames fortunes (write.work folder profile, disk))
      (undergo fortunes (write.work folder profile, disk)) := by
  cases write with
  | update policy =>
    exact undergone_writeDocument sound isPlain_policyName
      policy.toJson fortunes
  | record status =>
    exact undergone_writeDocument sound isPlain_statusName
      status.toJson fortunes
  | save selection =>
    cases fortunes with
    | nil => exact undergone_idle sound nofun
    | cons fortune later =>
      rw [work_save]
      cases fortune with
      | serves => exact undergone_saveWith sound selection _
      | breaksOff reason done =>
        let rest : Work (Except StoreError Unit) :=
          .done (.error (.files reason))
        have idle : Undergone folder.path "selections.json"
            (text? folder disk (.save selection)) disk
            (renames later (rest, disk)) (undergo later (rest, disk)) := by
          rw [Files.renames_done, Files.undergo_done]
          exact undergone_idle sound nofun
        exact idle

end Writes

/-- A write with the fortunes of its steps. Where they do not suffice the
process stops. -/
structure Attempt where
  write : Write
  fortunes : List Fortune

namespace Attempt

variable (folder : Folder) (profile : Option String)

def state (attempt : Attempt) (disk : Disk) :
    Work (Except StoreError Unit) × Disk :=
  undergo attempt.fortunes (attempt.write.work folder profile, disk)

def renamed (attempt : Attempt) (disk : Disk) : Bool :=
  renames attempt.fortunes (attempt.write.work folder profile, disk)

/-- The file and the text of a write whose draft was given the name of the
file. -/
def landed? (attempt : Attempt) (disk : Disk) : Option (String × String) :=
  if attempt.renamed folder profile disk then
    (attempt.write.text? folder disk).toOption.map (attempt.write.name, ·)
  else none

/-- The disk after several writes. -/
def afterAll (history : List Attempt) (disk : Disk) : Disk :=
  history.foldl (fun disk attempt => (attempt.state folder profile disk).2) disk

/-- All files and texts of writes whose drafts were given the names of the
files, the first one first. -/
def landed : List Attempt → Disk → List (String × String)
  | [], _ => []
  | attempt :: later, disk =>
    (attempt.landed? folder profile disk).toList ++
      landed later (attempt.state folder profile disk).2

end Attempt

/-- The last text for a file. -/
def latestText? (name : String) (texts : List (String × String)) :
    Option String :=
  (texts.filterMap fun landed =>
    if landed.1 = name then some landed.2 else none).getLast?

theorem latestText?_append (name : String)
    (former latter : List (String × String)) :
    latestText? name (former ++ latter) =
      (latestText? name latter).or (latestText? name former) := by
  rw [latestText?, List.filterMap_append, List.getLast?_append]
  rfl

section Histories

variable {folder : Folder} {profile : Option String} {disk : Disk}

/-- What a file shows for a text that was put there. -/
def shownText (text : String) : Files.Sight := .file (Bytes.ofText text)

theorem name_mem_fileNames (write : Write) : write.name ∈ fileNames := by
  cases write <;> simp [Write.name, fileNames]

theorem draft_ne_of_mem {name other : String} (member : name ∈ fileNames)
    (member' : other ∈ fileNames) : name ++ ".tmp" ≠ other := by
  have apart : ∀ name ∈ fileNames,
    ∀ other ∈ fileNames, name ++ ".tmp" ≠ other := by decide
  exact apart name member other member'

theorem Attempt.undergone (sound : disk.Sound) (attempt : Attempt) :
    Undergone folder.path attempt.write.name
      (attempt.write.text? folder disk) disk
      (attempt.renamed folder profile disk)
      (attempt.state folder profile disk) :=
  Write.undergone sound attempt.write

theorem Attempt.renamed_iff (sound : disk.Sound) (attempt : Attempt) :
    attempt.renamed folder profile disk = true ↔
      Files.result? (attempt.state folder profile disk).1 = some (.ok ()) := by
  have undergone :
    Undergone folder.path _ _ disk (attempt.renamed folder profile disk)
      (attempt.state folder profile disk) := attempt.undergone sound
  constructor
  · intro renamed
    rw [(undergone.landed renamed).1]
    rfl
  · intro ended
    by_contra unnamed
    refine (undergone.spared (Bool.eq_false_of_not_eq_true unnamed)).1 ?_
    revert ended
    cases (attempt.state folder profile disk).1 with
    | done result => rintro ⟨⟩; rfl
    | ask request resume => nofun

/-- After one write each file shows what was put there by it, or what it showed
before. -/
theorem Attempt.sight?_state (sound : disk.Sound) (attempt : Attempt)
    {name : String} (member : name ∈ fileNames) :
    (attempt.state folder profile disk).2.sight?
      (placeOf disk.working folder.path ++ [name]) =
      ((latestText? name (attempt.landed? folder profile disk).toList).map
          shownText).or
        (disk.sight? (placeOf disk.working folder.path ++ [name])) := by
  have undergone :
    Undergone folder.path _ _ disk (attempt.renamed folder profile disk)
      (attempt.state folder profile disk) := attempt.undergone sound
  by_cases same : attempt.write.name = name
  · subst same
    cases renamed : attempt.renamed folder profile disk with
    | true =>
      obtain ⟨-, text, written, shown⟩ := undergone.landed renamed
      rw [shown, landed?, if_pos renamed, written]
      simp [latestText?, Except.toOption, shownText]
    | false =>
      rw [(undergone.spared renamed).2, landed?, if_neg (by simp [renamed])]
      rfl
  · have aside :
        ¬ placeOf disk.working folder.path ++ [attempt.write.name ++ ".tmp"] <+:
          placeOf disk.working folder.path ++ [name] := fun within =>
      draft_ne_of_mem (name_mem_fileNames attempt.write) member
        (prefix_sibling_iff.1 within)
    have nothing : latestText? name
        (attempt.landed? folder profile disk).toList = none := by
      unfold landed?
      split
      · cases (attempt.write.text? folder disk).toOption <;>
          simp [latestText?, same]
      · rfl
    rw [nothing, undergone.elsewhere _ (by simpa using Ne.symm same) aside
      (not_prefix_self _ _)]
    rfl

/-- After several writes each file shows the text that was put there last. -/
theorem sight?_afterAll (sound : disk.Sound) (history : List Attempt) :
    (Attempt.afterAll folder profile history disk).Sound ∧
      (Attempt.afterAll folder profile history disk).working = disk.working ∧
      ∀ name ∈ fileNames,
        (Attempt.afterAll folder profile history disk).sight?
            (placeOf disk.working folder.path ++ [name]) =
          ((latestText? name (Attempt.landed folder profile history disk)).map
              shownText).or
            (disk.sight? (placeOf disk.working folder.path ++ [name])) := by
  induction history generalizing disk with
  | nil => exact ⟨sound, rfl, fun _ _ => rfl⟩
  | cons attempt later laterFact =>
    have undergone :
      Undergone folder.path _ _ disk (attempt.renamed folder profile disk)
        (attempt.state folder profile disk) := attempt.undergone sound
    obtain ⟨soundAfter, working, shown⟩ := laterFact undergone.sound
    refine ⟨soundAfter, working.trans undergone.working, fun name member => ?_⟩
    have after := shown name member
    rw [undergone.working, attempt.sight?_state sound member] at after
    rw [Attempt.landed, latestText?_append, Option.map_or, Option.or_assoc]
    exact after

end Histories

end Switchyard.Store
