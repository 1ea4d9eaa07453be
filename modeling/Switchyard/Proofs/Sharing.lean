import Switchyard.Proofs.Mishaps

/-!
# One store of selections, many callers

Selections may be saved and looked up at the same time. Whoever saves holds a
lock from before the file is read until after the draft has its name; whoever
looks up takes no lock and reads the file once. A lookup finds what a memory of
selections would hold after those saves whose draft had the name of the file by
then, in the order in which they took the lock.
-/

namespace Switchyard.Store

open Files (Disk Fault IsPlain Place Work join placeOf told? turn)
open Routine (Exchange)

/-- What may be asked of a store of selections. -/
inductive SelectionCall where
  | save (selection : Selection)
  | look (profile group : String)

/-- Where a call has got to. A save waits for the lock, has it, or has given it
back. -/
inductive Caller where
  | waiting (selection : Selection)
  | saving (selection : Selection) (rest : Work (Except StoreError Unit))
  | saved (selection : Selection) (result : Except StoreError Unit)
  | looking (profile group : String)
    (rest : Work (Except StoreError (Option String)))

/-- What is noted of a turn: a lock that was taken, or what was asked of the
disk and answered. -/
inductive Occasion where
  | locked (selection : Selection)
  | said (exchange : Exchange Files.Request.Answer)

/-- A disk with everyone who calls one store, who has the lock, and what has
happened so far. -/
structure Shared where
  disk : Disk
  holder : Option Nat
  callers : List Caller
  log : List (Nat × Occasion)

def SelectionCall.caller (file : SelectionFile) : SelectionCall → Caller
  | .save selection => .waiting selection
  | .look profile group => .looking profile group (file.selected? profile group)

namespace Shared

def start (file : SelectionFile) (calls : List SelectionCall) (disk : Disk) :
    Shared :=
  ⟨disk, none, calls.map fun call => call.caller file, []⟩

/-- What was asked and answered in a turn of somebody. -/
def noted (who : Nat) (shown : Option (Exchange Files.Request.Answer)) :
    List (Nat × Occasion) :=
  (shown.map fun exchange => (who, Occasion.said exchange)).toList

/-- One of the callers takes a turn: it takes the lock if that is free, goes one
step further or gives the lock back. -/
def step (file : SelectionFile) (shared : Shared) (who : Nat) : Shared :=
  match shared.callers[who]? with
  | some (.waiting selection) =>
    if shared.holder = none then
      { shared with
        holder := some who
        callers :=
          shared.callers.set who (.saving selection (file.save selection))
        log := shared.log ++ [(who, .locked selection)] }
    else shared
  | some (.saving selection rest) =>
    match Files.result? rest with
    | some result =>
      { shared with
        holder := none
        callers := shared.callers.set who (.saved selection result) }
    | none =>
      let state := turn .serves (rest, shared.disk)
      { shared with
        disk := state.2
        callers := shared.callers.set who (.saving selection state.1)
        log := shared.log ++ noted who (told? .serves (rest, shared.disk)) }
  | some (.looking profile group rest) =>
    let state := turn .serves (rest, shared.disk)
    { shared with
      disk := state.2
      callers := shared.callers.set who (.looking profile group state.1)
      log := shared.log ++ noted who (told? .serves (rest, shared.disk)) }
  | _ => shared

section Steps

variable {file : SelectionFile} {shared : Shared} {who : Nat}
  {selection : Selection}

theorem step_of_free
    (waiting : shared.callers[who]? = some (.waiting selection))
    (free : shared.holder = none) :
    shared.step file who =
      { shared with
        holder := some who
        callers :=
          shared.callers.set who (.saving selection (file.save selection))
        log := shared.log ++ [(who, .locked selection)] } := by
  simp only [step, waiting, if_pos free]

theorem step_of_done {rest : Work (Except StoreError Unit)}
    {result : Except StoreError Unit}
    (saving : shared.callers[who]? = some (.saving selection rest))
    (done : Files.result? rest = some result) :
    shared.step file who =
      { shared with
        holder := none
        callers := shared.callers.set who (.saved selection result) } := by
  simp only [step, saving, done]

theorem step_of_unfinished {rest : Work (Except StoreError Unit)}
    (saving : shared.callers[who]? = some (.saving selection rest))
    (unfinished : Files.result? rest = none) :
    shared.step file who =
      { shared with
        disk := (turn .serves (rest, shared.disk)).2
        callers := shared.callers.set who
          (.saving selection (turn .serves (rest, shared.disk)).1)
        log :=
          shared.log ++ noted who (told? .serves (rest, shared.disk)) } := by
  simp only [step, saving, unfinished]

theorem step_of_looking {profile group : String}
    {rest : Work (Except StoreError (Option String))}
    (looking : shared.callers[who]? = some (.looking profile group rest)) :
    shared.step file who =
      { shared with
        disk := (turn .serves (rest, shared.disk)).2
        callers := shared.callers.set who
          (.looking profile group (turn .serves (rest, shared.disk)).1)
        log :=
          shared.log ++ noted who (told? .serves (rest, shared.disk)) } := by
  simp only [step, looking]

end Steps

/-- The callers take turns in some order. -/
def run (file : SelectionFile) (schedule : List Nat) (shared : Shared) :
    Shared :=
  schedule.foldl (step file) shared

theorem run_append (file : SelectionFile) (former latter : List Nat)
    (shared : Shared) :
    shared.run file (former ++ latter) =
      (shared.run file former).run file latter :=
  List.foldl_append

theorem run_cons (file : SelectionFile) (who : Nat) (later : List Nat)
    (shared : Shared) :
    shared.run file (who :: later) = (shared.step file who).run file later :=
  rfl

end Shared

/-- Who has taken the lock for which selection, the first one first. -/
def lockOrder (log : List (Nat × Occasion)) : List (Nat × Selection) :=
  log.filterMap fun noted =>
    match noted.2 with
    | .locked selection => some (noted.1, selection)
    | .said _ => none

def Occasion.names : Occasion → Bool
  | .locked _ => false
  | .said exchange => Files.names exchange

/-- Whether somebody's draft was given the name of the file. -/
def hasNamed (log : List (Nat × Occasion)) (who : Nat) : Bool :=
  log.any fun noted => noted.1 == who && noted.2.names

/-- The selections whose drafts were given the name of the file, in the order of
the lock. -/
def savesNamed (log : List (Nat × Occasion)) : List Selection :=
  ((lockOrder log).filter fun taken => hasNamed log taken.1).map Prod.snd

/-- The memory after several saves. -/
def SelectionMemory.saveAll (saves : List Selection)
    (memory : SelectionMemory) : SelectionMemory :=
  saves.foldl (fun memory selection => memory.save selection) memory

section Logs

variable {log : List (Nat × Occasion)} {who other : Nat}
  {shown : Option (Exchange Files.Request.Answer)}

theorem lockOrder_append (former latter : List (Nat × Occasion)) :
    lockOrder (former ++ latter) = lockOrder former ++ lockOrder latter :=
  List.filterMap_append

theorem hasNamed_append (former latter : List (Nat × Occasion)) (who : Nat) :
    hasNamed (former ++ latter) who =
      (hasNamed former who || hasNamed latter who) :=
  List.any_append

@[simp]
theorem lockOrder_noted : lockOrder (Shared.noted who shown) = [] := by
  cases shown <;> rfl

theorem hasNamed_noted :
    hasNamed (Shared.noted who shown) other =
      (who == other && shown.any Files.names) := by
  cases shown with
  | none => simp [Shared.noted, hasNamed]
  | some exchange => simp [Shared.noted, hasNamed, Occasion.names]

end Logs

/-- After several saves the latest one for a profile and a group is found, or
what was there. -/
theorem selected?_saveAll (saves : List Selection) (memory : SelectionMemory)
    (profile group : String) :
    (memory.saveAll saves).entries.selected? profile group =
      ((saves.filter fun selection =>
          selection.profile = profile ∧ selection.group = group).getLast?.map
        Selection.proxy).or (memory.entries.selected? profile group) := by
  induction saves using List.reverseRecOn with
  | nil => rfl
  | append_singleton former last formerFact =>
    have saved : (memory.saveAll (former ++ [last])).entries =
        (memory.saveAll former).entries.save last := by
      rw [SelectionMemory.saveAll, List.foldl_append]
      rfl
    rw [saved, SelectionMap.selected?_save, formerFact, List.filter_append]
    by_cases here : profile = last.profile ∧ group = last.group
    · obtain ⟨rfl, rfl⟩ := here
      simp
    · rw [if_neg here, List.filter_singleton]
      have apart : ¬ (last.profile = profile ∧ last.group = group) :=
        fun same => here ⟨same.1.symm, same.2.symm⟩
      simp [apart]

/-- Whether nothing is in the way of writing a file. -/
structure IsReady (home : Place) (name : String) (disk : Disk) : Prop where
  sound : disk.Sound
  reachable : disk.IsReachable home
  hidden : ¬ disk.IsOpen home → disk.sight? (home ++ [name]) = none
  vacant : disk.IsVacant (home ++ [name ++ ".tmp"])
  free : disk.sight? (home ++ [name]) ≠ some .folder

def Folder.Holds (folder : Folder) (entries : SelectionMap)
    (disk : Disk) : Prop :=
  Write.selections folder (disk.read (join folder.path "selections.json")) =
    .ok entries

/-- The bytes that are written when a selection is saved. -/
def savedBytes (entries : SelectionMap) (selection : Selection) : Bytes :=
  Bytes.ofText (SelectionMap.toJson (entries.save selection)).pretty

/-- Where a save has got to that began on some selections, whether the draft has
the name of the file, and how many turns are left until the lock is free
again. -/
inductive Phase (folder : Folder) (home : Place) (entries : SelectionMap)
    (selection : Selection) (disk : Disk) :
    Bool → Nat → Work (Except StoreError Unit) → Prop where
  | reading : IsReady home "selections.json" disk → folder.Holds entries disk →
    Phase folder home entries selection disk false 6
      (.ask (.read (join folder.path "selections.json")) fun found =>
        Write.saveWith folder selection (Write.selections folder found))
  | writing {start : Disk} {stage : Drafting} :
    placeOf start.working folder.path = home →
    IsReady home "selections.json" start → folder.Holds entries start →
    Drafted home "selections.json" (savedBytes entries selection)
      start stage disk →
    stage.Unhindered home "selections.json" disk → stage.isNamed = false →
    stage = .beginning ∧ disk = start ∨ disk.IsOpen home →
    Phase folder home entries selection disk false (stage.stepsLeft + 1)
      (stage.rest (join folder.path "selections.json")
        (savedBytes entries selection))
  | written : IsReady home "selections.json" disk →
    folder.Holds (entries.save selection) disk →
    Phase folder home entries selection disk true 1 (.done (.ok ()))

section Phases

variable {folder : Folder} {home : Place} {entries : SelectionMap}
  {selection : Selection} {disk start : Disk} {named : Bool} {left : Nat}
  {rest : Work (Except StoreError Unit)} {stage : Drafting}

theorem IsReady.read_eq (ready : IsReady home "selections.json" disk)
    (there : placeOf disk.working folder.path = home) :
    disk.read (join folder.path "selections.json") =
      Files.Disk.readSight (disk.sight? (home ++ ["selections.json"])) := by
  refine Files.Disk.read_of_isReachable ?_ ready.reachable ready.hidden
  rw [isPlain_selectionsName.placeOf_join, there]

theorem read_of_isOpen (opened : disk.IsOpen home)
    (there : placeOf disk.working folder.path = home) :
    disk.read (join folder.path "selections.json") =
      Files.Disk.readSight (disk.sight? (home ++ ["selections.json"])) := by
  refine Files.Disk.read_of_isReachable ?_ opened.isReachable fun closed =>
    absurd opened closed
  rw [isPlain_selectionsName.placeOf_join, there]

/-- Until the draft has its name the selections are there that were there when
the save began. -/
theorem Phase.holds
    (phase : Phase folder home entries selection disk named left rest) :
    folder.Holds (if named then entries.save selection else entries) disk := by
  cases phase with
  | reading ready holds => exact holds
  | written ready holds => exact holds
  | writing there ready holds drafted unhindered unnamed place =>
    rcases place with ⟨-, rfl⟩ | opened
    · exact holds
    · have thereNow : placeOf disk.working folder.path = home := by
        rw [drafted.working, there]
      rw [Folder.Holds, read_of_isOpen opened thereNow, drafted.target, unnamed,
        if_neg (by simp), ← ready.read_eq there]
      exact holds

/-- The turn that gives the draft its name leaves the file with the new
selection. -/
theorem written_of_naming {after : Disk} {next : Drafting}
    (opened : after.IsOpen home)
    (there : placeOf after.working folder.path = home) (sound : after.Sound)
    (fits : Drafting.naming.Fits home "selections.json"
      (savedBytes entries selection) disk)
    (naming : Naming home "selections.json" disk after stage next) :
    Phase folder home entries selection after true 1 (.done (.ok ())) := by
  have shown : after.sight? (home ++ ["selections.json"]) =
      some (.file (savedBytes entries selection)) := naming.target.trans fits.2
  refine .written ⟨sound, opened.isReachable,
    fun closed => absurd opened closed,
    Files.Disk.isVacant_of_nothing naming.draft, by simp [shown]⟩ ?_
  rw [Folder.Holds, read_of_isOpen opened there, shown]
  exact interpret_pretty (SelectionMap.isReadable_toJson _)
    (SelectionMap.ofJson?_toJson _)

/-- A save that has read the file begins to write. -/
theorem Phase.read (there : placeOf disk.working folder.path = home)
    (ready : IsReady home "selections.json" disk)
    (holds : folder.Holds entries disk) :
    Phase folder home entries selection disk false 5
      (Write.saveWith folder selection
        (Write.selections folder
          (disk.read (join folder.path "selections.json")))) := by
  rw [holds, Write.saveWith, writeDocument_eq]
  exact .writing there ready holds (drafted_beginning ready.sound)
    ⟨ready.reachable, ready.vacant, ready.free⟩ rfl (.inl ⟨rfl, rfl⟩)

/-- After a turn of writing the folder is there. -/
theorem isOpen_of_stride {path name : String} {bytes : Bytes} {after : Disk}
    {next : Drafting} {shown : Option (Exchange Files.Request.Answer)}
    (stride : Stride path home name bytes .serves disk stage shown next after)
    (sound : disk.Sound) (unhindered : stage.Unhindered home name disk)
    (place : stage = .beginning ∨ disk.IsOpen home) :
    after.IsOpen home := by
  rcases place with rfl | opened
  · cases stride with
    | begun served grown kept opened stays => exact opened
    | notBegun fault grown kept cause => exact absurd unhindered.1 (cause rfl)
  · exact stride.isOpen sound opened

/-- A turn of a save leads on to the next phase. -/
theorem Phase.step
    (phase : Phase folder home entries selection disk named left rest)
    (there : placeOf disk.working folder.path = home)
    (unfinished : Files.result? rest = none) :
    ∃ named', Phase folder home entries selection (turn .serves (rest, disk)).2
      named' (left - 1)
        (turn .serves (rest, disk)).1 ∧
      (turn .serves (rest, disk)).2.working = disk.working ∧
      named' = (named || (told? .serves (rest, disk)).any Files.names) := by
  cases phase with
  | written ready holds => cases unfinished
  | reading ready holds => exact ⟨false, .read there ready holds, rfl, rfl⟩
  | @writing start stage thereAtStart ready holds drafted unhindered
      unnamed place =>
    subst thereAtStart
    obtain ⟨next, restAfter, stride⟩ :=
      drafted.exists_stride isPlain_selectionsName .serves
    obtain ⟨onward, nearer⟩ :=
      stride.unhindered drafted.sound drafted.fits unhindered
    have opened :=
      isOpen_of_stride stride drafted.sound unhindered (place.imp_left And.left)
    have more : 0 < stage.stepsLeft := by
      refine Nat.pos_of_ne_zero fun finished => ?_
      rw [unhindered.eq_ended finished] at unnamed
      cases unnamed
    have working := stride.working
    refine ⟨(told? .serves (stage.rest _ _, disk)).any Files.names,
      ?_, working, rfl⟩
    cases given : (told? .serves (stage.rest _ _, disk)).any Files.names with
    | true =>
      have naming := stride.naming drafted.sound given
      have fits := drafted.fits
      have sound := stride.sound drafted.sound
      rw [naming.stage] at fits
      have lefts : stage.stepsLeft + 1 - 1 = 1 := by rw [naming.stage]; rfl
      rw [restAfter, lefts, naming.next]
      exact written_of_naming opened (by rw [working, there]) sound fits naming
    | false =>
      have lefts : stage.stepsLeft + 1 - 1 = next.stepsLeft + 1 := by omega
      rw [restAfter, lefts]
      exact .writing rfl ready holds (drafted.step stride) onward
        ((stride.isNamed_eq given).trans unnamed) (.inr opened)

end Phases

/-! ## Whoever has the lock -/

/-- Whether a caller has the lock to save a selection, with something left to
do. -/
def Shared.IsSaving (shared : Shared) (who : Nat) (selection : Selection)
    (rest : Work (Except StoreError Unit)) : Prop :=
  shared.callers[who]? = some (.saving selection rest)

/-- One caller has the lock and is the only one who saves, and all that had it
before have saved. -/
structure Tenure (folder : Folder) (memory : SelectionMemory) (home : Place)
    (shared : Shared) (finished : List (Nat × Selection)) (who : Nat)
    (selection : Selection) (named : Bool) (left : Nat)
    (rest : Work (Except StoreError Unit)) : Prop where
  holder : shared.holder = some who
  here : shared.IsSaving who selection rest
  alone : ∀ other selection rest,
    shared.IsSaving other selection rest → other = who
  order : lockOrder shared.log = finished ++ [(who, selection)]
  before : ∀ taken ∈ finished, hasNamed shared.log taken.1 = true
  own : hasNamed shared.log who = named
  phase : Phase folder home (memory.saveAll (finished.map Prod.snd)).entries
    selection shared.disk named left rest

/-- Whether the lock is free and the file holds all saves so far, or somebody
has the lock. -/
inductive Standing (folder : Folder) (memory : SelectionMemory) (home : Place)
    (shared : Shared) :
    Prop where
  | free : shared.holder = none →
    (∀ who selection rest, ¬ shared.IsSaving who selection rest) →
    (∀ taken ∈ lockOrder shared.log, hasNamed shared.log taken.1 = true) →
    IsReady home "selections.json" shared.disk →
    folder.Holds (memory.saveAll ((lockOrder shared.log).map Prod.snd)).entries
      shared.disk →
    Standing folder memory home shared
  | held {finished : List (Nat × Selection)} {who : Nat} {selection : Selection}
    {named : Bool} {left : Nat} {rest : Work (Except StoreError Unit)} :
    Tenure folder memory home shared finished who selection named left rest →
    Standing folder memory home shared

/-- What holds of a caller: a save that waits has named nothing, one that has
given the lock back has succeeded, and a lookup is yet to read or is done. -/
def Caller.Fits (file : SelectionFile) (log : List (Nat × Occasion))
    (who : Nat) : Caller → Prop
  | .waiting _ => hasNamed log who = false
  | .saving _ _ => True
  | .saved selection result =>
    result = .ok () ∧ (who, selection) ∈ lockOrder log ∧ hasNamed log who = true
  | .looking profile group rest =>
    rest = file.selected? profile group ∨ ∃ result, rest = .done result

/-- What holds of everyone who calls one store. -/
structure Shares (folder : Folder) (profile : Option String)
    (memory : SelectionMemory) (home : Place) (shared : Shared) : Prop where
  there : placeOf shared.disk.working folder.path = home
  standing : Standing folder memory home shared
  fits : ∀ (who : Nat) (caller : Caller), shared.callers[who]? = some caller →
    caller.Fits (SelectionFile.ofFolder folder.path profile) shared.log who

section Sharing

variable {folder : Folder} {profile : Option String} {memory : SelectionMemory}
  {home : Place} {shared : Shared} {who other : Nat} {selection : Selection}

theorem saveAll_append (memory : SelectionMemory) (saves : List Selection)
    (selection : Selection) :
    (memory.saveAll (saves ++ [selection])).entries =
      (memory.saveAll saves).entries.save selection := by
  rw [SelectionMemory.saveAll, List.foldl_append]
  rfl

/-- The file holds what the memory would hold after the saves that were named so
far. -/
theorem Standing.holds (standing : Standing folder memory home shared) :
    folder.Holds (memory.saveAll (savesNamed shared.log)).entries
      shared.disk := by
  cases standing with
  | free unheld unsaving named ready holds =>
    rw [savesNamed, List.filter_eq_self.2 named]
    exact holds
  | @held finished who selection named left rest tenure =>
    have holds := tenure.phase.holds
    rw [savesNamed, tenure.order, List.filter_append,
      List.filter_eq_self.2 tenure.before, List.map_append,
      List.filter_singleton, tenure.own]
    cases named with
    | true => rwa [cond_true, List.map_singleton, saveAll_append]
    | false => simpa using holds

/-- A turn that changes neither the file nor who saves makes no difference. -/
theorem Standing.aside (standing : Standing folder memory home shared)
    {after : Shared} (disk : after.disk = shared.disk)
    (holder : after.holder = shared.holder) (saving : ∀ who selection rest,
      after.IsSaving who selection rest ↔ shared.IsSaving who selection rest)
    (order : lockOrder after.log = lockOrder shared.log)
    (named : ∀ who, hasNamed after.log who = hasNamed shared.log who) :
    Standing folder memory home after := by
  cases standing with
  | free unheld unsaving finished ready holds =>
    refine .free (holder.trans unheld) (fun who selection rest found => ?_)
      (fun taken among => ?_) (disk ▸ ready) (by rw [order, disk]; exact holds)
    · exact unsaving who selection rest ((saving who selection rest).1 found)
    · rw [named]
      exact finished taken (order ▸ among)
  | held tenure =>
    refine .held ⟨holder.trans tenure.holder, (saving _ _ _).2 tenure.here,
      fun other selection rest found =>
        tenure.alone other selection rest ((saving _ _ _).1 found),
      order.trans tenure.order, fun taken among => ?_,
      (named _).trans tenure.own, disk ▸ tenure.phase⟩
    rw [named]
    exact tenure.before taken among

/-- Whoever saves is the one who has the lock. -/
theorem Standing.exists_tenure (standing : Standing folder memory home shared)
    {rest : Work (Except StoreError Unit)}
    (here : shared.IsSaving who selection rest) :
    ∃ finished named left,
      Tenure folder memory home shared finished who selection named
        left rest := by
  cases standing with
  | free unheld unsaving named ready holds =>
    exact absurd here (unsaving who selection rest)
  | held tenure =>
    obtain rfl := tenure.alone who selection rest here
    obtain ⟨rfl, rfl⟩ :=
      Caller.saving.inj (Option.some.inj (tenure.here.symm.trans here))
    exact ⟨_, _, _, tenure⟩

theorem getElem?_set_cases {Value : Type} {values : List Value}
    {index other : Nat} {value found : Value}
    (here : (values.set index value)[other]? = some found) :
    other = index ∧ found = value ∨ other ≠ index ∧
      values[other]? = some found := by
  by_cases same : other = index
  · subst same
    have within := (List.getElem?_eq_some_iff.1 here).1
    rw [List.length_set] at within
    rw [List.getElem?_set_self within] at here
    exact .inl ⟨rfl, (Option.some.inj here).symm⟩
  · rw [List.getElem?_set_ne (Ne.symm same)] at here
    exact .inr ⟨same, here⟩

theorem hasNamed_noted_of_ne (log : List (Nat × Occasion))
    (different : other ≠ who) (shown : Option (Exchange Files.Request.Answer)) :
    hasNamed (log ++ Shared.noted who shown) other = hasNamed log other := by
  rw [hasNamed_append, hasNamed_noted,
    beq_eq_false_iff_ne.2 (Ne.symm different), Bool.false_and, Bool.or_false]

theorem hasNamed_mono {log : List (Nat × Occasion)}
    (named : hasNamed log who = true) (later : List (Nat × Occasion)) :
    hasNamed (log ++ later) who = true := by
  rw [hasNamed_append, named, Bool.true_or]

/-- A turn of the caller who has the lock. -/
theorem Tenure.onward {finished : List (Nat × Selection)}
    {named : Bool} {left : Nat} {rest : Work (Except StoreError Unit)}
    (tenure : Tenure folder memory home shared finished who selection
      named left rest)
    (there : placeOf shared.disk.working folder.path = home)
    (unfinished : Files.result? rest = none) :
    let state := turn .serves (rest, shared.disk)
    let after : Shared := { shared with
      disk := state.2
      callers := shared.callers.set who (.saving selection state.1)
      log :=
        shared.log ++ Shared.noted who (told? .serves (rest, shared.disk)) }
    state.2.working = shared.disk.working ∧ ∃ named',
      Tenure folder memory home after finished who selection named'
        (left - 1) state.1 := by
  intro state after
  obtain ⟨named', phase, working, own⟩ := tenure.phase.step there unfinished
  have within := (List.getElem?_eq_some_iff.1 tenure.here).1
  refine ⟨working, named', tenure.holder, List.getElem?_set_self within,
    fun other known left saving => ?_, ?_, fun taken among => ?_, ?_, phase⟩
  · rcases getElem?_set_cases saving with ⟨same, -⟩ | ⟨-, before⟩
    · exact same
    · exact tenure.alone other known left before
  · rw [lockOrder_append, lockOrder_noted, List.append_nil, tenure.order]
  · exact hasNamed_mono (tenure.before taken among) _
  · rw [hasNamed_append, hasNamed_noted, tenure.own, beq_self_eq_true,
      Bool.true_and, own]

/-- The lock is taken by a caller who waits for it. -/
theorem Standing.locked (standing : Standing folder memory home shared)
    (unheld : shared.holder = none)
    (waiting : shared.callers[who]? = some (.waiting selection))
    (quiet : hasNamed shared.log who = false) :
    Tenure folder memory home
      { shared with
        holder := some who
        callers := shared.callers.set who
          (.saving selection
            ((SelectionFile.ofFolder folder.path profile).save selection))
        log := shared.log ++ [(who, .locked selection)] }
      (lockOrder shared.log) who selection false 6
      ((SelectionFile.ofFolder folder.path profile).save selection) := by
  have within := (List.getElem?_eq_some_iff.1 waiting).1
  cases standing with
  | held tenure => exact nomatch unheld.symm.trans tenure.holder
  | free _ unsaving named ready holds =>
    have work : (SelectionFile.ofFolder folder.path profile).save selection =
        .ask (.read (join folder.path "selections.json")) fun found =>
          Write.saveWith folder selection (Write.selections folder found) :=
      Write.work_save folder profile selection
    refine ⟨rfl, List.getElem?_set_self within,
      fun other known left saving => ?_, lockOrder_append _ _,
      fun taken among => hasNamed_mono (named taken among) _, ?_, ?_⟩
    · rcases getElem?_set_cases saving with ⟨same, -⟩ | ⟨-, before⟩
      · exact same
      · exact absurd before (unsaving other known left)
    · rw [hasNamed_append, quiet]
      simp [hasNamed, Occasion.names]
    · rw [work]
      exact .reading ready holds

/-- The lock is given back by the caller who has it and is done, and that is its
last turn. -/
theorem Tenure.released {finished : List (Nat × Selection)}
    {named : Bool} {left : Nat} {rest : Work (Except StoreError Unit)}
    {result : Except StoreError Unit}
    (tenure : Tenure folder memory home shared finished who selection
      named left rest)
    (done : Files.result? rest = some result) :
    left = 1 ∧ result = .ok () ∧ hasNamed shared.log who = true ∧
      Standing folder memory home
        { shared with
          holder := none
          callers := shared.callers.set who (.saved selection result) } := by
  obtain ⟨holder, here, alone, order, finishedNamed, own, phase⟩ := tenure
  cases phase with
  | reading ready holds => cases done
  | @writing start stage there ready holds drafted unhindered unnamed place =>
    cases stage with
    | ended known =>
      cases unhindered
      cases unnamed
    | _ => cases done
  | written ready holds =>
    cases done
    refine ⟨rfl, rfl, own,
      .free rfl (fun other known left saving => ?_)
        (fun taken among => ?_) ready ?_⟩
    · rcases getElem?_set_cases saving with ⟨-, different⟩ | ⟨apart, before⟩
      · cases different
      · exact apart (alone other known left before)
    · rw [order, List.mem_append] at among
      rcases among with among | among
      · exact finishedNamed taken among
      · rw [List.mem_singleton.1 among]
        exact own
    · rw [order, List.map_append, List.map_singleton, saveAll_append]
      exact holds

theorem Caller.Fits.append {file : SelectionFile} {caller : Caller}
    {log : List (Nat × Occasion)} (fits : caller.Fits file log who)
    {later : List (Nat × Occasion)}
    (same : hasNamed (log ++ later) who = hasNamed log who) :
    caller.Fits file (log ++ later) who := by
  cases caller with
  | waiting selection => exact same.trans fits
  | saving selection rest => trivial
  | saved selection result =>
    obtain ⟨succeeded, among, named⟩ := fits
    refine ⟨succeeded, ?_, same.trans named⟩
    rw [lockOrder_append]
    exact List.mem_append_left _ among
  | looking sought group rest => exact fits

/-- After a turn of one caller there is nothing new to say of the others. -/
theorem Shares.onward (shares : Shares folder profile memory home shared)
    {after : Shared} {caller : Caller} {later : List (Nat × Occasion)}
    (there : placeOf after.disk.working folder.path = home)
    (standing : Standing folder memory home after)
    (callers : after.callers = shared.callers.set who caller)
    (log : after.log = shared.log ++ later)
    (same : ∀ other, other ≠ who →
      hasNamed (shared.log ++ later) other = hasNamed shared.log other)
    (own : caller.Fits (SelectionFile.ofFolder folder.path profile)
      (shared.log ++ later) who) :
    Shares folder profile memory home after := by
  refine ⟨there, standing, fun other known found => ?_⟩
  rw [callers] at found
  rw [log]
  rcases getElem?_set_cases found with ⟨rfl, rfl⟩ | ⟨apart, before⟩
  · exact own
  · exact (shares.fits other known before).append (same other apart)

/-- The caller who has the lock goes one step further or gives it back. -/
theorem Shares.step_saving (shares : Shares folder profile memory home shared)
    {rest : Work (Except StoreError Unit)}
    (here : shared.IsSaving who selection rest) :
    Shares folder profile memory home
      (shared.step (SelectionFile.ofFolder folder.path profile) who) := by
  obtain ⟨finished, named, left, tenure⟩ := shares.standing.exists_tenure here
  cases done : Files.result? rest with
  | some result =>
    obtain ⟨-, succeeded, own, standing⟩ := tenure.released done
    have among : (who, selection) ∈ lockOrder shared.log := by
      rw [tenure.order]
      exact List.mem_append_right _ List.mem_cons_self
    have nothing : shared.log = shared.log ++ [] := (List.append_nil _).symm
    rw [Shared.step_of_done here done]
    refine shares.onward shares.there standing rfl nothing
      (fun _ _ => by rw [← nothing]) ?_
    rw [← nothing]
    exact ⟨succeeded, among, own⟩
  | none =>
    obtain ⟨working, named', onward⟩ := tenure.onward shares.there done
    rw [Shared.step_of_unfinished here done]
    exact shares.onward
      ((congrArg (placeOf · folder.path) working).trans shares.there)
      (.held onward) rfl rfl
      (fun other apart => hasNamed_noted_of_ne _ apart _) trivial

/-- A caller who waits takes the lock or goes on waiting. -/
theorem Shares.step_waiting (shares : Shares folder profile memory home shared)
    (waiting : shared.callers[who]? = some (.waiting selection)) :
    Shares folder profile memory home
      (shared.step (SelectionFile.ofFolder folder.path profile) who) := by
  by_cases unheld : shared.holder = none
  · have quiet : hasNamed shared.log who = false := shares.fits who _ waiting
    rw [Shared.step_of_free waiting unheld]
    refine shares.onward shares.there
      (.held (shares.standing.locked unheld waiting quiet)) rfl rfl
      (fun other _ => ?_) trivial
    rw [hasNamed_append]
    simp [hasNamed, Occasion.names]
  · simp only [Shared.step, waiting, if_neg unheld]
    exact shares

/-- What a lookup does in its turn: it reads the file, or it is done. -/
theorem Shares.step_looking (shares : Shares folder profile memory home shared)
    {sought group : String} {rest : Work (Except StoreError (Option String))}
    (looking : shared.callers[who]? = some (.looking sought group rest)) :
    Shares folder profile memory home
      (shared.step (SelectionFile.ofFolder folder.path profile) who) := by
  obtain ⟨disk, unnamed, done⟩ :
      (turn .serves (rest, shared.disk)).2 = shared.disk ∧
      (told? .serves (rest, shared.disk)).any Files.names = false ∧
      ∃ result, (turn .serves (rest, shared.disk)).1 = .done result := by
    rcases shares.fits who _ looking with rfl | ⟨result, rfl⟩
    · exact ⟨rfl, rfl, _, rfl⟩
    · exact ⟨rfl, rfl, result, rfl⟩
  have named (other : Nat) :
      hasNamed
        (shared.log ++ Shared.noted who (told? .serves (rest, shared.disk)))
        other = hasNamed shared.log other := by
    rw [hasNamed_append, hasNamed_noted, unnamed, Bool.and_false, Bool.or_false]
  rw [Shared.step_of_looking looking]
  refine shares.onward ?_ ?_ rfl rfl (fun other _ => named other) (.inr done)
  · exact (congrArg (fun disk => placeOf disk.working folder.path) disk).trans
      shares.there
  · refine shares.standing.aside disk rfl (fun other known left => ?_) ?_ named
    · constructor
      · intro saving
        rcases getElem?_set_cases saving with ⟨-, different⟩ | ⟨-, before⟩
        · cases different
        · exact before
      · intro saving
        have apart : who ≠ other := by
          rintro rfl
          cases looking.symm.trans saving
        exact (List.getElem?_set_ne apart).trans saving
    · exact (lockOrder_append _ _).trans
        (by rw [lockOrder_noted, List.append_nil])

theorem Shares.step (shares : Shares folder profile memory home shared)
    (who : Nat) :
    Shares folder profile memory home
      (shared.step (SelectionFile.ofFolder folder.path profile) who) := by
  cases found : shared.callers[who]? with
  | none =>
    rw [Shared.step, found]
    exact shares
  | some caller =>
    cases caller with
    | waiting selection => exact shares.step_waiting found
    | saving selection rest => exact shares.step_saving found
    | looking sought group rest => exact shares.step_looking found
    | saved selection result =>
      rw [Shared.step, found]
      exact shares

theorem Shares.run (shares : Shares folder profile memory home shared)
    (schedule : List Nat) :
    Shares folder profile memory home
      (shared.run (SelectionFile.ofFolder folder.path profile) schedule) := by
  induction schedule generalizing shared with
  | nil => exact shares
  | cons who later laterFact => exact laterFact (shares.step who)

/-- A save that has the lock and takes its turns gives it back and has
succeeded. -/
theorem Tenure.finishes {finished : List (Nat × Selection)}
    {named : Bool} {left : Nat} {rest : Work (Except StoreError Unit)}
    (file : SelectionFile)
    (tenure : Tenure folder memory home shared finished who selection
      named left rest)
    (there : placeOf shared.disk.working folder.path = home) :
    (shared.run file (List.replicate left who)).callers[who]? =
      some (.saved selection (.ok ())) := by
  induction left generalizing shared named rest with
  | zero => cases tenure.phase
  | succ left leftFact =>
    rw [List.replicate_succ, Shared.run_cons]
    cases done : Files.result? rest with
    | some result =>
      obtain ⟨last, rfl, -, -⟩ := tenure.released done
      obtain rfl : left = 0 := by omega
      have within := (List.getElem?_eq_some_iff.1 tenure.here).1
      rw [Shared.step_of_done tenure.here done]
      exact List.getElem?_set_self within
    | none =>
      obtain ⟨working, named', onward⟩ := tenure.onward there done
      rw [Shared.step_of_unfinished tenure.here done]
      exact leftFact onward
        ((congrArg (placeOf · folder.path) working).trans there)

end Sharing

/-! ## Whole runs -/

/-- What a caller was asked for. -/
def Caller.call : Caller → SelectionCall
  | .waiting selection => .save selection
  | .saving selection _ => .save selection
  | .saved selection _ => .save selection
  | .looking profile group _ => .look profile group

section Runs

variable {folder : Folder} {profile : Option String}
  {memory : SelectionMemory} {disk : Disk}
  {file : SelectionFile} {calls : List SelectionCall}
  {shared : Shared} {who : Nat}

theorem map_call_set {caller before : Caller} {callers : List Caller}
    (found : callers[who]? = some before) (same : caller.call = before.call) :
    (callers.set who caller).map Caller.call = callers.map Caller.call := by
  obtain ⟨within, here⟩ := List.getElem?_eq_some_iff.1 found
  have within' : who < (callers.map Caller.call).length := by
    rwa [List.length_map]
  have here' : (callers.map Caller.call)[who] = before.call := by
    rw [List.getElem_map, here]
  rw [List.map_set, same, ← here']
  exact List.set_getElem_self within'

theorem getElem?_step_of_ne {other : Nat} (different : other ≠ who) :
    (shared.step file who).callers[other]? = shared.callers[other]? := by
  unfold Shared.step
  split
  · split
    · exact List.getElem?_set_ne different.symm
    · rfl
  · split <;> exact List.getElem?_set_ne different.symm
  · exact List.getElem?_set_ne different.symm
  · rfl

theorem getElem?_run_of_not_mem {schedule : List Nat}
    (absent : who ∉ schedule) :
    (shared.run file schedule).callers[who]? = shared.callers[who]? := by
  induction schedule generalizing shared with
  | nil => rfl
  | cons next later laterFact =>
    rw [List.mem_cons, not_or] at absent
    rw [Shared.run_cons, laterFact absent.2, getElem?_step_of_ne absent.1]

/-- A lookup that is done stays done. -/
theorem getElem?_run_of_found {sought group : String}
    {result : Except StoreError (Option String)}
    (found : shared.callers[who]? = some (.looking sought group (.done result)))
    (schedule : List Nat) :
    (shared.run file schedule).callers[who]? =
      some (.looking sought group (.done result)) := by
  induction schedule generalizing shared with
  | nil => exact found
  | cons next later laterFact =>
    rw [Shared.run_cons]
    refine laterFact ?_
    by_cases same : who = next
    · subst same
      have within := (List.getElem?_eq_some_iff.1 found).1
      rw [Shared.step_of_looking found]
      exact List.getElem?_set_self within
    · rw [getElem?_step_of_ne same, found]

/-- Whoever is in the order of the lock was asked to save that selection. -/
structure IsCalled (calls : List SelectionCall) (shared : Shared) : Prop where
  callers : shared.callers.map Caller.call = calls
  order : ∀ taken ∈ lockOrder shared.log, calls[taken.1]? = some (.save taken.2)

theorem IsCalled.onward (called : IsCalled calls shared) {after : Shared}
    {caller before : Caller} {later : List (Nat × Occasion)}
    (found : shared.callers[who]? = some before)
    (callers : after.callers = shared.callers.set who caller)
    (same : caller.call = before.call) (log : after.log = shared.log ++ later)
    (order : ∀ taken ∈ lockOrder later, taken.1 = who ∧
      before.call = .save taken.2) :
    IsCalled calls after := by
  refine ⟨?_, fun taken among => ?_⟩
  · rw [callers, map_call_set found same, called.callers]
  · rw [log, lockOrder_append] at among
    rcases List.mem_append.1 among with among | among
    · exact called.order taken among
    · obtain ⟨own, asked⟩ := order taken among
      rw [own, ← called.callers, List.getElem?_map, found,
        Option.map_some, asked]

theorem IsCalled.step (called : IsCalled calls shared) (who : Nat) :
    IsCalled calls (shared.step file who) := by
  have silent (shown : Option (Exchange Files.Request.Answer))
      (call : SelectionCall) : ∀ taken ∈ lockOrder (Shared.noted who shown),
        taken.1 = who ∧ call = .save taken.2 := by
    rw [lockOrder_noted]
    simp
  cases found : shared.callers[who]? with
  | none =>
    rw [Shared.step, found]
    exact called
  | some caller =>
    cases caller with
    | waiting selection =>
      by_cases free : shared.holder = none
      · rw [Shared.step_of_free found free]
        refine called.onward found rfl rfl rfl fun taken among => ?_
        rw [List.mem_singleton.1 among]
        exact ⟨rfl, rfl⟩
      · simp only [Shared.step, found, if_neg free]
        exact called
    | saving selection rest =>
      cases done : Files.result? rest with
      | some result =>
        rw [Shared.step_of_done found done]
        exact called.onward found rfl rfl (List.append_nil _).symm
          (silent none _)
      | none =>
        rw [Shared.step_of_unfinished found done]
        exact called.onward found rfl rfl rfl (silent _ _)
    | looking sought group rest =>
      rw [Shared.step_of_looking found]
      exact called.onward found rfl rfl rfl (silent _ _)
    | saved selection result =>
      rw [Shared.step, found]
      exact called

theorem isCalled_run (calls : List SelectionCall) (disk : Disk)
    (schedule : List Nat) :
    IsCalled calls ((Shared.start file calls disk).run file schedule) := by
  have start : IsCalled calls (Shared.start file calls disk) := by
    refine ⟨?_, nofun⟩
    rw [Shared.start, List.map_map]
    refine (List.map_congr_left fun call _ => ?_).trans (List.map_id calls)
    cases call <;> rfl
  suffices kept : ∀ {shared : Shared}, IsCalled calls shared →
      IsCalled calls (shared.run file schedule) from kept start
  intro shared called
  induction schedule generalizing shared with
  | nil => exact called
  | cons who later laterFact => exact laterFact (called.step who)

theorem shares_start
    (ready : IsReady (placeOf disk.working folder.path) "selections.json" disk)
    (holds : folder.Holds memory.entries disk) (calls : List SelectionCall) :
    Shares folder profile memory (placeOf disk.working folder.path)
      (.start (SelectionFile.ofFolder folder.path profile) calls disk) := by
  have origin {who : Nat} {caller : Caller}
      (found :
        (Shared.start (SelectionFile.ofFolder folder.path profile) calls
          disk).callers[who]? = some caller) :
      ∃ call : SelectionCall,
        call.caller (SelectionFile.ofFolder folder.path profile) = caller := by
    rw [Shared.start, List.getElem?_map] at found
    obtain ⟨call, -, same⟩ := Option.map_eq_some_iff.1 found
    exact ⟨call, same⟩
  refine ⟨rfl,
    .free rfl (fun who selection rest saving => ?_) nofun ready holds,
    fun who caller found => ?_⟩
  · obtain ⟨call, same⟩ := origin saving
    cases call <;> cases same
  · obtain ⟨call, rfl⟩ := origin found
    cases call with
    | save selection => rfl
    | look sought group => exact .inl rfl

/-- A lookup reads the file in its turn and returns what is there. -/
theorem Shares.looks {home : Place}
    (shares : Shares folder profile memory home shared) {sought group : String}
    (looking : shared.callers[who]? = some (.looking sought group
      ((SelectionFile.ofFolder folder.path profile).selected? sought group))) :
    (shared.step (SelectionFile.ofFolder folder.path profile)
        who).callers[who]? =
      some (.looking sought group (.done (.ok
        ((memory.saveAll (savesNamed shared.log)).entries.selected? sought
          group)))) := by
  have within := (List.getElem?_eq_some_iff.1 looking).1
  have holds := shares.standing.holds
  have read :
      (turn .serves
        ((SelectionFile.ofFolder folder.path profile).selected? sought group,
      shared.disk)).1 = .done ((Write.selections folder
        (shared.disk.read (join folder.path "selections.json"))).map
          (SelectionMap.selected? sought group)) := rfl
  rw [Shared.step_of_looking looking,
    List.getElem?_set_self within, read, holds]
  rfl

/-- However the turns of many callers of one store follow each other, a lookup
returns in its first turn, with what a memory would hold after those saves whose
draft had the name of the file by then, in the order of the lock. The latest of
them for a profile and a group counts. A save that returns has succeeded and is
one of them, a save that finds the lock free returns after seven turns, and at
most one caller has the lock. -/
theorem lookups_follow_saves (folder : Folder) (profile : Option String)
    (memory : SelectionMemory) {disk : Disk}
    (ready : IsReady (placeOf disk.working folder.path) "selections.json" disk)
    (holds : folder.Holds memory.entries disk) (calls : List SelectionCall)
    (schedule : List Nat) :
    let file := SelectionFile.ofFolder folder.path profile
    let start := Shared.start file calls disk
    let shared := start.run file schedule
    (∀ who sought group former latter, calls[who]? = some (.look sought group) →
      schedule = former ++ who :: latter → who ∉ former →
      shared.callers[who]? = some (.looking sought group (.done (.ok
        ((memory.saveAll
            (savesNamed (start.run file former).log)).entries.selected? sought
          group))))) ∧
    (∀ saves sought group,
      (memory.saveAll saves).entries.selected? sought group =
      ((saves.filter fun selection =>
        selection.profile = sought ∧ selection.group = group).getLast?.map
          Selection.proxy).or
        (memory.entries.selected? sought group)) ∧
    (∀ taken ∈ lockOrder shared.log, calls[taken.1]? = some (.save taken.2)) ∧
    (∀ (who : Nat) (selection : Selection) (result : Except StoreError Unit),
      shared.callers[who]? = some (.saved selection result) →
      result = .ok () ∧ (who, selection) ∈ lockOrder shared.log ∧
        hasNamed shared.log who = true) ∧
    (∀ who selection, calls[who]? = some (.save selection) → who ∉ schedule →
      shared.holder = none →
        (shared.run file (List.replicate 7 who)).callers[who]? =
        some (.saved selection (.ok ()))) ∧
    ∀ who other selection known rest left, shared.IsSaving who selection rest →
      shared.IsSaving other known left → who = other := by
  intro file start shared
  have shares :
      Shares folder profile memory (placeOf disk.working folder.path) shared :=
    (shares_start ready holds calls).run schedule
  have atStart (who : Nat) : start.callers[who]? = calls[who]?.map fun call =>
      call.caller file :=
    List.getElem?_map
  refine ⟨fun who sought group former latter asked split absent => ?_,
    fun saves sought group => selected?_saveAll saves memory sought group,
    (isCalled_run calls disk schedule).order,
    fun who selection result saved => shares.fits who _ saved,
    fun who selection asked absent free => ?_,
    fun who other selection known rest left saving savingOther => ?_⟩
  · have sharesBefore :
        Shares folder profile memory (placeOf disk.working folder.path)
          (start.run file former) := (shares_start ready holds calls).run former
    have looking : (start.run file former).callers[who]? =
        some (.looking sought group (file.selected? sought group)) := by
      rw [getElem?_run_of_not_mem absent, atStart, asked]
      rfl
    have whole : shared = ((start.run file former).step file who).run
        file latter := by
      rw [← Shared.run_cons, ← Shared.run_append, ← split]
    rw [whole]
    exact getElem?_run_of_found (sharesBefore.looks looking) latter
  · have waiting : shared.callers[who]? = some (.waiting selection) := by
      rw [getElem?_run_of_not_mem absent, atStart, asked]
      rfl
    have tenure : Tenure folder memory (placeOf disk.working folder.path) _
        (lockOrder shared.log) who selection false 6 (file.save selection) :=
      shares.standing.locked free waiting (shares.fits who _ waiting)
    rw [List.replicate_succ, Shared.run_cons, Shared.step_of_free waiting free]
    exact tenure.finishes file shares.there
  · obtain ⟨finished, named, turns, tenure⟩ :=
      shares.standing.exists_tenure saving
    exact (tenure.alone other known left savingOther).symm

/-- In an empty folder a selection is saved, and the proxy is found by a lookup
after that. -/
theorem lookup_finds_saved_proxy :
    let folder : Folder := ⟨""⟩
    let file := SelectionFile.ofFolder folder.path (some "home")
    let memory := SelectionMemory.ofProfile (some "home")
    let disk := Disk.blank ["srv"]
    let calls := [.save ⟨"home", "GLOBAL", "A"⟩, .look "home" "GLOBAL"]
    IsReady (placeOf disk.working folder.path) "selections.json" disk ∧
      folder.Holds memory.entries disk ∧
      ((Shared.start file calls disk).run file
          [0, 0, 0, 0, 0, 0, 0, 1]).callers[1]? =
        some (.looking "home" "GLOBAL" (.done (.ok (some "A")))) := by
  intro folder file memory disk calls
  have there : placeOf disk.working folder.path = ["srv"] :=
    Files.placeOf_empty _
  have opened : disk.IsOpen ["srv"] := there ▸ Folder.isEmpty_blank.opened
  have nothing (name : String) : disk.sight? (["srv"] ++ [name]) = none := rfl
  have ready :
      IsReady (placeOf disk.working folder.path) "selections.json" disk := by
    rw [there]
    exact ⟨Files.Disk.sound_blank _, opened.isReachable,
      fun closed => absurd opened closed,
      Files.Disk.isVacant_of_nothing (nothing _),
      (Files.Disk.isVacant_of_nothing (nothing "selections.json")).1⟩
  have holds : folder.Holds memory.entries disk := by
    rw [Folder.Holds, read_of_isOpen opened there, nothing]
    rfl
  obtain ⟨-, -, -, -, finishes, -⟩ :=
    lookups_follow_saves folder (some "home") memory ready holds calls []
  have saved := finishes 0 ⟨"home", "GLOBAL", "A"⟩ rfl (by simp) rfl
  obtain ⟨-, -, called, succeeded, -, -⟩ :=
    lookups_follow_saves folder (some "home") memory ready holds calls
      (List.replicate 7 0)
  obtain ⟨-, among, named⟩ := succeeded 0 _ _ saved
  obtain ⟨looks, latest, -, -, -, -⟩ :=
    lookups_follow_saves folder (some "home") memory ready holds calls
      (List.replicate 7 0 ++ [1])
  refine ⟨ready, holds,
    (looks 1 _ _ (List.replicate 7 0) [] rfl rfl (by simp)).trans ?_⟩
  generalize ((Shared.start (SelectionFile.ofFolder folder.path (some "home"))
      calls disk).run
    (SelectionFile.ofFolder folder.path (some "home"))
    (List.replicate 7 0)).log = log at *
  have only : ∀ selection ∈ savesNamed log,
      selection = ⟨"home", "GLOBAL", "A"⟩ := by
    intro selection found
    obtain ⟨⟨_ | _ | who, selection⟩, within, rfl⟩ := List.mem_map.1 found
    all_goals have asked := called _ (List.mem_filter.1 within).1
    · exact (SelectionCall.save.inj (Option.some.inj asked)).symm
    · cases asked
    · cases asked
  have found : (⟨"home", "GLOBAL", "A"⟩ : Selection) ∈ savesNamed log :=
    List.mem_map.2 ⟨_, List.mem_filter.2 ⟨among, named⟩, rfl⟩
  have last : (savesNamed log).getLast? = some ⟨"home", "GLOBAL", "A"⟩ := by
    rw [List.getLast?_eq_some_getLast (List.ne_nil_of_mem found),
      only _ (List.getLast_mem _)]
  have matching : (savesNamed log).filter (fun selection =>
      selection.profile = "home" ∧ selection.group = "GLOBAL") =
        savesNamed log :=
    List.filter_eq_self.2 fun selection found => by simp [only selection found]
  rw [latest, matching, last]
  rfl

end Runs

end Switchyard.Store
