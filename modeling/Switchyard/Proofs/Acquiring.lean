import Switchyard.Daemon.PidFile
import Switchyard.Proofs.Drafting

/-!
# The stages of acquiring

A process number file is acquired in steps: it is read, the number in it is
compared with the own one and tested, folders are made, and the file is emptied
and filled. Each step is one request to the host, so other processes may act in
between. Where a step leads to is said here once, whatever the host looks like
by then.
-/

namespace Switchyard

namespace Files.Disk

variable {disk after : Disk} {path : String} {number : Nat} {bytes : Bytes}

/-- Whether a file is at a path, with some bytes in the content of some
number. -/
def ShowsFile (disk : Disk) (path : String) (number : Nat)
    (bytes : Bytes) : Prop :=
  ∃ home name, placeOf disk.working path = home ++ [name] ∧ disk.IsOpen home ∧
    disk.entryAt? (home ++ [name]) = some (.file number) ∧
    disk.content number = bytes

theorem ShowsFile.read_eq (shows : disk.ShowsFile path number bytes) :
    disk.read path = .ok bytes := by
  obtain ⟨home, name, leads, opened, found, content⟩ := shows
  rw [read_of_isOpen leads opened, sight?_of_entryAt? found, sightOf, content]

theorem ShowsFile.grown (shows : disk.ShowsFile path number bytes)
    (grown : Grown disk after) :
    after.ShowsFile path number bytes := by
  obtain ⟨home, name, leads, opened, found, content⟩ := shows
  refine ⟨home, name, by rwa [grown.working], opened.grown grown, ?_, ?_⟩
  · rcases grown.entries (home ++ [name]) with same | ⟨free, -⟩
    · exact same.trans found
    · exact nomatch free.symm.trans found
  · rwa [Disk.content, grown.contents]

/-- A file that was emptied is there, and no bytes are in it. -/
theorem Sound.showsFile_truncate (sound : disk.Sound)
    (opened : disk.truncate path = (.ok number, after)) :
    after.Sound ∧ after.ShowsFile path number [] := by
  rcases List.eq_nil_or_concat' (placeOf disk.working path) with
    top | ⟨home, name, leads⟩
  · rw [truncate, reach, top] at opened
    cases opened
  · obtain ⟨way, written⟩ := sound.isWritten_truncate leads opened
    exact ⟨written.sound, home, name, by rw [written.alike.working, leads],
      Store.isOpen_of_alike written.alike way, written.entry, written.content⟩

theorem Sound.showsFile_write (sound : disk.Sound)
    (shows : disk.ShowsFile path number []) (bytes : Bytes) :
    (disk.write number bytes).ShowsFile path number bytes := by
  obtain ⟨home, name, leads, opened, found, blank⟩ := shows
  have written := sound.isWritten_self found
  rw [blank] at written
  exact ⟨home, name, leads, opened.write number bytes, found,
    (written.write bytes).content⟩

end Files.Disk

namespace Daemon

theorem le_ofDigitChars (value : Nat) (digits : List Char) :
    value ≤ Nat.ofDigitChars 10 digits value := by
  rw [Nat.ofDigitChars_eq_ofDigitChars_zero]
  have scale : 1 ≤ 10 ^ digits.length := Nat.one_le_pow _ _ (by decide)
  calc
    value = 1 * value := (Nat.one_mul value).symm
    _ ≤ 10 ^ digits.length * value := Nat.mul_le_mul_right _ scale
    _ ≤ _ := Nat.le_add_right _ _

theorem continueNumber_eq {value : Nat} {digits : List Char}
    (decimal : ∀ digit ∈ digits, digit.isDigit = true)
    (within : Nat.ofDigitChars 10 digits value < UInt32.size) :
    continueNumber value digits = .ok (Nat.ofDigitChars 10 digits value) := by
  induction digits generalizing value with
  | nil => rfl
  | cons digit digits digitsFact =>
    rw [Nat.ofDigitChars_cons] at within ⊢
    have next : 10 * value + (digit.toNat - '0'.toNat) < UInt32.size :=
      Nat.lt_of_le_of_lt (le_ofDigitChars _ digits) within
    simp only [continueNumber, decimal digit List.mem_cons_self, if_true, next]
    exact digitsFact (fun other among =>
      decimal other (List.mem_cons_of_mem _ among)) within

/-- A process number that was written is the one that is read. -/
theorem processNumber_toString {number : Nat} (within : number < UInt32.size) :
    processNumber (toString number) = .ok number := by
  have written : (toString number).toList = Nat.toDigits 10 number :=
    Nat.toList_repr
  have decimal : ∀ digit ∈ Nat.toDigits 10 number, digit.isDigit = true :=
    fun digit member =>
      Nat.isDigit_of_mem_toDigits (by decide) (by decide) member
  have black : ∀ digit ∈ Nat.toDigits 10 number,
      Text.isWhite digit = false := by
    intro digit member
    have counted : digit.isAlphanum = true :=
      Bool.or_eq_true_iff.2 (.inr (decimal digit member))
    exact Text.isWhite_eq_false_of_isAlphanum counted
  have read : continueNumber 0 (Nat.toDigits 10 number) = .ok number := by
    rw [continueNumber_eq decimal] <;> rw [Nat.ofDigitChars_ten_toDigits]
    exact within
  have unsigned : ∀ rest, Nat.toDigits 10 number ≠ '+' :: rest := by
    intro rest same
    have sign := decimal '+' (same ▸ List.mem_cons_self)
    exact absurd sign (by decide)
  rw [processNumber, written, Text.trimChars_eq_self black]
  split
  · exact absurd ‹_› Nat.toDigits_ne_nil
  · exact absurd ‹_› (unsigned _)
  · exact absurd ‹_› (unsigned _)
  · exact read

end Daemon

namespace PidFile

open Daemon (greatestNumber)
open Routine (Exchange)

/-- The file as it comes out of a piece of work, or as it was before if the work
fails. -/
def settle (file : PidFile) (work : Host.Work (Except DaemonError PidFile)) :
    Host.Work PidFile := do
  match ← work with
  | .ok taken => pure taken
  | .error _ => pure file

/-- Acquiring the file. Whoever is refused has it as before. -/
def engage (file : PidFile) : Host.Work PidFile := file.settle file.acquire

/-- Giving the file up, whatever comes of it. -/
def disengage (file : PidFile) : Host.Work PidFile := do
  pure (← file.release).2

section Works

variable (file : PidFile) (own : Nat)

def fill (number : Nat) : Host.Work PidFile := do
  match ← Host.ask (.file (.write number (Bytes.ofText (toString own)))) with
  | .ok () => pure { file with isOwned := true }
  | .error _ => pure file

/-- What is done when the file was opened, or was not. -/
def emptied : Except Files.Fault Nat → Host.Work PidFile
  | .ok number => file.fill own number
  | .error _ => pure file

def empty : Host.Work PidFile := do
  file.emptied own (← Host.ask (.file (.truncate file.path)))

/-- What is done when the folders were made, or were not. -/
def wayMade : Except Files.Fault Unit → Host.Work PidFile
  | .ok () => file.empty own
  | .error _ => pure file

def makeWay : Host.Work PidFile := do
  file.wayMade own
    (← Host.ask (.file (.makeFolders ((Files.parent? file.path).getD ""))))

def claim : Host.Work PidFile := do
  file.makeWay (← Host.ask .ownNumber)

/-- What is done about a process that a signal could reach, or could not. -/
def tested : Except Undelivered Unit → Host.Work PidFile
  | .error .noSuchProcess => file.claim
  | _ => pure file

def test (found : Nat) : Host.Work PidFile := do
  file.tested (← Host.ask (.send found none))

/-- What is done about a number that may be the own one. -/
def compared (found : Nat) : Host.Work PidFile :=
  if found = own then file.claim
  else if found ≤ greatestNumber then file.test found
  else file.claim

def compare (found : Nat) : Host.Work PidFile := do
  file.compared (← Host.ask .ownNumber) found

/-- What is done about what the file shows. -/
def looked : Except DaemonError (Option Nat) → Host.Work PidFile
  | .error _ => pure file
  | .ok none => file.claim
  | .ok (some found) => file.compare found

def look : Host.Work PidFile := do
  file.looked (file.interpret (← Host.ask (.file (.read file.path))))

def withdraw : Host.Work PidFile := do
  let _ ← Host.ask (.file (.remove file.path))
  pure { file with isOwned := false }

end Works

/-- Where a process has got to with its file. -/
inductive Stage where
  | resting
  | reading
  | comparing (found : Nat)
  | testing (found : Nat)
  | claiming
  | makingWay
  | emptying
  | filling (number : Nat)
  | removing
deriving DecidableEq

/-- What is left to do in a stage. -/
def Stage.rest (file : PidFile) (own : Nat) : Stage → Option (Host.Work PidFile)
  | .resting => none
  | .reading => some file.look
  | .comparing found => some (file.compare found)
  | .testing found => some (file.test found)
  | .claiming => some file.claim
  | .makingWay => some (file.makeWay own)
  | .emptying => some (file.empty own)
  | .filling number => some (file.fill own number)
  | .removing => some file.withdraw

@[simp]
theorem Stage.rest_eq_none_iff {file : PidFile} {own : Nat} {stage : Stage} :
    stage.rest file own = none ↔ stage = .resting := by
  cases stage <;> simp [Stage.rest]

section Equations

variable (file : PidFile)

theorem settle_write : file.settle file.write = file.claim := by
  refine congrArg (Routine.ask _) (funext fun own => ?_)
  refine congrArg (Routine.ask _) (funext fun made => ?_)
  cases made with
  | error fault => rfl
  | ok done =>
    refine congrArg (Routine.ask _) (funext fun opened => ?_)
    cases opened with
    | error fault => rfl
    | ok number =>
      refine congrArg (Routine.ask _) (funext fun filled => ?_)
      cases filled <;> rfl

/-- Refusing the file if a process of a number runs is testing the number, if it
can be one. -/
theorem settle_isRunning (found : Nat) :
    file.settle (do
        if ← Daemon.isRunning found
          then pure (.error (.alreadyRunning file.path found))
        else file.write) =
      if found ≤ greatestNumber then file.test found else file.claim := by
  unfold Daemon.isRunning
  split
  · refine congrArg (Routine.ask _) (funext fun delivered => ?_)
    rcases delivered with (_ | _) | _
    · exact file.settle_write
    · rfl
    · rfl
  · exact file.settle_write

theorem engage_eq : file.engage = file.look := by
  refine congrArg (Routine.ask _) (funext fun given => ?_)
  change file.settle (match file.interpret given with
      | .error error => pure (.error error)
      | .ok none => file.write
      | .ok (some found) => do
        let own ← (Host.ask .ownNumber : Host.Work Nat)
        if found = own then file.write
        else if ← Daemon.isRunning found then
          pure (.error (.alreadyRunning file.path found))
        else file.write) =
    file.looked (file.interpret given)
  rcases file.interpret given with error | _ | found
  · rfl
  · exact file.settle_write
  · refine congrArg (Routine.ask _) (funext fun own => ?_)
    change file.settle (if found = own then file.write else _) =
      file.compared own found
    unfold compared
    split
    · exact file.settle_write
    · exact file.settle_isRunning found

theorem disengage_eq (owned : file.isOwned = true) :
    file.disengage = file.withdraw := by
  rw [disengage, release, if_pos owned]
  rfl

end Equations

section Showing

variable (file : PidFile)

theorem interpret_number {own : Nat} (possible : own ≤ greatestNumber) :
    file.interpret (.ok (Bytes.ofText (toString own))) = .ok (some own) := by
  have within : own < UInt32.size := Nat.lt_of_le_of_lt possible (by decide)
  simp only [interpret, Bytes.text?_ofText,
    Daemon.processNumber_toString within]

/-- A file that was emptied shows no number. -/
theorem interpret_nil :
    file.interpret (.ok []) = .error (.pidFileRead file.path
      ("Invalid PID format: " ++ Daemon.NumberFault.empty.message)) := rfl

end Showing

/-! ## Steps -/

/-- A process that has got to some stage with its file, which it may own from
before. -/
structure Standing where
  isOwned : Bool
  stage : Stage
deriving DecidableEq

/-- A process with its file and what is left to do with it. -/
structure Resident where
  file : PidFile
  work : Option (Host.Work PidFile)

namespace Resident

/-- A process that goes on with a piece of work. When that is done, it has the
file that came out. -/
def goingOn (file : PidFile) : Host.Work PidFile → Resident
  | .done result => ⟨result, none⟩
  | work => ⟨file, some work⟩

end Resident

def Standing.resident (path : String) (own : Nat) (standing : Standing) :
    Resident :=
  ⟨⟨path, standing.isOwned⟩, standing.stage.rest ⟨path, standing.isOwned⟩ own⟩

/-- What a step may show, where it leads to and how it leaves the disk. -/
inductive Stride (path : String) (own : Nat) (running : List Nat)
    (isOwned : Bool) (disk : Files.Disk) :
    Stage → Exchange Host.Request.Answer → Standing → Files.Disk → Prop where
  | unreadable (error : DaemonError) :
    interpret ⟨path, isOwned⟩ (disk.read path) = .error error →
    Stride path own running isOwned disk .reading ⟨.file (.read path),
        disk.read path⟩
      ⟨isOwned, .resting⟩ disk
  | foundNobody : interpret ⟨path, isOwned⟩ (disk.read path) = .ok none →
    Stride path own running isOwned disk .reading ⟨.file (.read path),
        disk.read path⟩
      ⟨isOwned, .claiming⟩ disk
  | found (number : Nat) :
    interpret ⟨path, isOwned⟩ (disk.read path) = .ok (some number) →
    Stride path own running isOwned disk .reading ⟨.file (.read path),
        disk.read path⟩
      ⟨isOwned, .comparing number⟩ disk
  | passed (number : Nat) : number = own ∨ greatestNumber < number →
    Stride path own running isOwned disk (.comparing number) ⟨.ownNumber, own⟩
      ⟨isOwned, .claiming⟩ disk
  | doubted (number : Nat) :
    Stride path own running isOwned disk (.comparing number) ⟨.ownNumber, own⟩
      ⟨isOwned, .testing number⟩ disk
  | met (number : Nat) :
    Stride path own running isOwned disk (.testing number)
      ⟨.send number none, .ok ()⟩ ⟨isOwned, .resting⟩ disk
  | gone (number : Nat) : number ∉ running →
    Stride path own running isOwned disk (.testing number)
      ⟨.send number none, .error .noSuchProcess⟩ ⟨isOwned, .claiming⟩ disk
  | claimed :
    Stride path own running isOwned disk .claiming ⟨.ownNumber, own⟩
      ⟨isOwned, .makingWay⟩ disk
  | wayMade {after : Files.Disk} : Files.Disk.Grown disk after →
    Stride path own running isOwned disk .makingWay
      ⟨.file (.makeFolders ((Files.parent? path).getD "")), .ok ()⟩
      ⟨isOwned, .emptying⟩ after
  | noWay {after : Files.Disk} (fault : Files.Fault) :
    Files.Disk.Grown disk after →
    Stride path own running isOwned disk .makingWay
      ⟨.file (.makeFolders ((Files.parent? path).getD "")), .error fault⟩
      ⟨isOwned, .resting⟩ after
  | emptied {after : Files.Disk} (number : Nat) :
    disk.truncate path = (.ok number, after) →
    Stride path own running isOwned disk .emptying ⟨.file (.truncate path),
        .ok number⟩
      ⟨isOwned, .filling number⟩ after
  | notEmptied (fault : Files.Fault) :
    Stride path own running isOwned disk .emptying ⟨.file (.truncate path),
        .error fault⟩
      ⟨isOwned, .resting⟩ disk
  | filled (number : Nat) :
    Stride path own running isOwned disk (.filling number)
      ⟨.file (.write number (Bytes.ofText (toString own))), .ok ()⟩
      ⟨true, .resting⟩ (disk.write number (Bytes.ofText (toString own)))
  | removed (answer : Except Files.Fault Unit) :
    Stride path own running isOwned disk .removing
      ⟨.file (.remove path), answer⟩ ⟨false, .resting⟩ (disk.remove path).2

section Steps

variable {path : String} {own : Nat} {running : List Nat} {isOwned : Bool}
  {disk : Files.Disk}

/-- Whether a stage leads on by one of the strides. -/
def LeadsOn (path : String) (own : Nat) (running : List Nat) (isOwned : Bool)
    (disk : Files.Disk) (stage : Stage) : Prop :=
  ∃ request resume, stage.rest ⟨path, isOwned⟩ own =
    some (.ask request resume) ∧
    let reply := Host.answer request ⟨disk, own, running, []⟩
    ∃ next : Standing,
      Resident.goingOn ⟨path, isOwned⟩ (resume reply.1) =
        next.resident path own ∧
        Stride path own running isOwned disk stage ⟨request, reply.1⟩
          next reply.2.disk

theorem leadsOn_reading : LeadsOn path own running isOwned disk .reading := by
  refine ⟨_, _, rfl, ?_⟩
  have next {outcome : Except DaemonError (Option Nat)}
      (shown : interpret ⟨path, isOwned⟩ (disk.read path) = outcome) :
      Resident.goingOn ⟨path, isOwned⟩ (looked ⟨path, isOwned⟩
        (interpret ⟨path, isOwned⟩ (disk.read path))) =
      Resident.goingOn ⟨path, isOwned⟩ (looked ⟨path, isOwned⟩ outcome) := by
    rw [shown]
  rcases shown : interpret ⟨path, isOwned⟩ (disk.read path) with
    error | _ | number
  · exact ⟨⟨isOwned, .resting⟩, next shown, .unreadable error shown⟩
  · exact ⟨⟨isOwned, .claiming⟩, next shown, .foundNobody shown⟩
  · exact ⟨⟨isOwned, .comparing number⟩, next shown, .found number shown⟩

theorem leadsOn_comparing (number : Nat) :
    LeadsOn path own running isOwned disk (.comparing number) := by
  refine ⟨_, _, rfl, ?_⟩
  change ∃ next : Standing,
    Resident.goingOn ⟨path, isOwned⟩ (compared ⟨path, isOwned⟩ own number) =
      next.resident path own ∧ _
  unfold compared
  split
  · exact ⟨⟨isOwned, .claiming⟩, rfl, .passed number (.inl ‹_›)⟩
  · split
    · exact ⟨⟨isOwned, .testing number⟩, rfl, .doubted number⟩
    · exact ⟨⟨isOwned, .claiming⟩, rfl,
        .passed number (.inr (Nat.not_le.1 ‹_›))⟩

theorem leadsOn_testing (number : Nat) :
    LeadsOn path own running isOwned disk (.testing number) := by
  refine ⟨_, _, rfl, ?_⟩
  let processes : Processes := ⟨own, running, []⟩
  change ∃ next : Standing,
    Resident.goingOn ⟨path, isOwned⟩
      (tested ⟨path, isOwned⟩ (processes.send number none).1) =
        next.resident path own ∧
      Stride path own running isOwned disk (.testing number)
        ⟨.send number none, (processes.send number none).1⟩ next disk
  unfold Processes.send
  split
  · exact ⟨⟨isOwned, .resting⟩, rfl, .met number⟩
  · next absent =>
    refine ⟨⟨isOwned, .claiming⟩, rfl, .gone number fun among => absent ?_⟩
    simp [Processes.canReach, processes, among]

theorem leadsOn_makingWay :
    LeadsOn path own running isOwned disk .makingWay := by
  refine ⟨_, _, rfl, ?_⟩
  have grown := Files.Disk.grown_makeFolders disk ((Files.parent? path).getD "")
  change ∃ next : Standing,
    Resident.goingOn ⟨path, isOwned⟩ (wayMade ⟨path, isOwned⟩ own
        (disk.makeFolders ((Files.parent? path).getD "")).1) =
          next.resident path own ∧
      Stride path own running isOwned disk .makingWay
        ⟨.file (.makeFolders ((Files.parent? path).getD "")),
          (disk.makeFolders ((Files.parent? path).getD "")).1⟩ next
        (disk.makeFolders ((Files.parent? path).getD "")).2
  rcases (disk.makeFolders ((Files.parent? path).getD "")).1 with fault | done
  · exact ⟨⟨isOwned, .resting⟩, rfl, .noWay fault grown⟩
  · exact ⟨⟨isOwned, .emptying⟩, rfl, .wayMade grown⟩

theorem leadsOn_emptying : LeadsOn path own running isOwned disk .emptying := by
  refine ⟨_, _, rfl, ?_⟩
  change ∃ next : Standing,
    Resident.goingOn ⟨path, isOwned⟩
      (emptied ⟨path, isOwned⟩ own (disk.truncate path).1) =
        next.resident path own ∧
      Stride path own running isOwned disk .emptying
        ⟨.file (.truncate path), (disk.truncate path).1⟩
        next (disk.truncate path).2
  rcases opened : disk.truncate path with ⟨fault | number, after⟩
  · rw [Files.Disk.truncate_of_error opened]
    exact ⟨⟨isOwned, .resting⟩, rfl, .notEmptied fault⟩
  · exact ⟨⟨isOwned, .filling number⟩, rfl, .emptied number opened⟩

/-- Every step of a process that is not at rest is one of the strides. -/
theorem leadsOn_of_ne_resting {stage : Stage} (busy : stage ≠ .resting) :
    LeadsOn path own running isOwned disk stage := by
  cases stage with
  | resting => exact absurd rfl busy
  | reading => exact leadsOn_reading
  | comparing found => exact leadsOn_comparing found
  | testing found => exact leadsOn_testing found
  | claiming => exact ⟨_, _, rfl, ⟨isOwned, .makingWay⟩, rfl, .claimed⟩
  | makingWay => exact leadsOn_makingWay
  | emptying => exact leadsOn_emptying
  | filling number => exact ⟨_, _, rfl, ⟨true, .resting⟩, rfl, .filled number⟩
  | removing => exact ⟨_, _, rfl, ⟨false, .resting⟩, rfl, .removed _⟩

end Steps

/-- Whether the file is, or is about to be, what a process in some stage makes
of it. -/
def Stage.isHolding : Stage → Bool
  | .filling _ => true
  | .removing => true
  | _ => false

def Standing.isHolding (standing : Standing) : Bool :=
  standing.isOwned || standing.stage.isHolding

theorem Standing.isHolding_of_stage {isOwned : Bool} {stage : Stage}
    (held : stage.isHolding = true) :
    Standing.isHolding ⟨isOwned, stage⟩ = true := by
  rw [isHolding, held, Bool.or_true]

/-- What a process that holds the file knows of it. -/
def Standing.Marks (path : String) (own : Nat) (disk : Files.Disk)
    (standing : Standing) : Prop :=
  match standing.stage with
  | .filling number => disk.ShowsFile path number []
  | _ => ∃ number, disk.ShowsFile path number (Bytes.ofText (toString own))

theorem Standing.marks_iff {path : String} {own : Nat} {disk : Files.Disk}
    {isOwned : Bool} {stage : Stage} (calm : stage.isHolding = false) :
    Standing.Marks path own disk ⟨isOwned, stage⟩ ↔
      ∃ number, disk.ShowsFile path number (Bytes.ofText (toString own)) := by
  cases stage with
  | filling number => cases calm
  | _ => exact Iff.rfl

/-- Folders that are made leave the file alone. -/
theorem Standing.Marks.grown {path : String} {own : Nat}
    {disk after : Files.Disk} {standing : Standing}
    (marks : standing.Marks path own disk)
    (grown : Files.Disk.Grown disk after) : standing.Marks path own after := by
  unfold Standing.Marks at marks ⊢
  split at marks
  · exact marks.grown grown
  · exact marks.imp fun number shows => shows.grown grown

/-- Who may hold the file when a process gets to some stage that has read it. -/
def Stage.Permits (own holder : Nat) : Stage → Prop
  | .comparing found => holder = found
  | .testing found => holder = found
  | .claiming => holder = own
  | .makingWay => holder = own
  | .emptying => holder = own
  | _ => True

end PidFile

end Switchyard
