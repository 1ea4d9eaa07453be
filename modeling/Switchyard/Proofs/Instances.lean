import Mathlib.Data.List.AList
import Switchyard.Proofs.Acquiring
import Switchyard.Proofs.Rivals

/-!
# One daemon at a time

Processes come and go, and each may acquire and release the process number file
as often as it likes; between any two of its requests others may act. Whoever
has the file has written it, but between the look at the file and the writing
another process may have written it too: both then have it. As long as nobody
empties the file who has not read it since it was emptied last, at most one
running process has it, and the file shows the number of that process.
-/

namespace Switchyard.Daemon

open PidFile (Resident Stage Standing Stride)
open Routine (Exchange)

/-- A step that some process took: what was asked and answered. -/
abbrev Deed := Nat × Exchange Host.Request.Answer

def reads : Exchange Host.Request.Answer → Bool
  | ⟨.file (.read _), _⟩ => true
  | _ => false

def empties : Exchange Host.Request.Answer → Bool
  | ⟨.file (.truncate _), .ok _⟩ => true
  | _ => false

/-- Who has read the file since it was emptied last. -/
def informedAfter (informed : List Nat) (deed : Deed) : List Nat :=
  if empties deed.2 then [] else if reads deed.2 then deed.1 :: informed
  else informed

/-- Whether nobody empties the file without having read it since it was emptied
last. -/
def isHeedful : List Nat → List Deed → Bool
  | _, [] => true
  | informed, deed :: later =>
    (!empties deed.2 || informed.contains deed.1) &&
      isHeedful (informedAfter informed deed) later

theorem isHeedful_append (informed : List Nat) (former latter : List Deed) :
    isHeedful informed (former ++ latter) =
      (isHeedful informed former &&
        isHeedful (former.foldl informedAfter informed) latter) := by
  induction former generalizing informed with
  | nil => rfl
  | cons deed former formerFact =>
    rw [List.cons_append, isHeedful, isHeedful, formerFact, Bool.and_assoc]
    rfl

/-- A machine with one process number file: its disk, the running processes by
their numbers, and what they have asked for so far. -/
structure Instances where
  path : String
  disk : Files.Disk
  residents : AList fun _ : Nat => Resident
  log : List Deed

namespace Instances

/-- A machine on which no process runs. -/
def start (path : String) (disk : Files.Disk) : Instances := ⟨path, disk, ∅, []⟩

/-- What may happen: a process comes or goes, a process that is at rest sets
about acquiring or releasing the file, and a process gets on by one request. -/
inductive Move where
  | arrive (number : Nat)
  | leave (number : Nat)
  | acquire (number : Nat)
  | release (number : Nat)
  | proceed (number : Nat)
deriving DecidableEq

/-- A process that is at rest sets about something. -/
def engage (instances : Instances) (number : Nat) (work : PidFile → Resident) :
    Instances :=
  match instances.residents.lookup number with
  | some ⟨file, none⟩ =>
    { instances with
      residents := instances.residents.insert number (work file) }
  | _ => instances

/-- A process makes its next request, and the machine answers it. -/
def proceed (instances : Instances) (number : Nat) : Instances :=
  match instances.residents.lookup number with
  | some ⟨file, some (.ask request resume)⟩ =>
    let reply :=
      Host.answer request ⟨instances.disk, number, instances.residents.keys, []⟩
    { instances with
      disk := reply.2.disk
      residents :=
        instances.residents.insert number (.goingOn file (resume reply.1))
      log := instances.log ++ [(number, ⟨request, reply.1⟩)] }
  | _ => instances

/-- No two running processes have one number, and no number is greater than
there may be. A file is no longer owned from the moment at which its release
begins. -/
def move (instances : Instances) : Move → Instances
  | .arrive number =>
    if 0 < number ∧ number ≤ greatestNumber ∧ number ∉ instances.residents then
      { instances with
        residents :=
          instances.residents.insert number ⟨.atPath instances.path, none⟩ }
    else instances
  | .leave number =>
    { instances with residents := instances.residents.erase number }
  | .acquire number =>
    instances.engage number fun file => .goingOn file file.engage
  | .release number =>
    instances.engage number fun file =>
      .goingOn { file with isOwned := false } file.disengage
  | .proceed number => instances.proceed number

def run (moves : List Move) (instances : Instances) : Instances :=
  moves.foldl move instances

theorem run_append (former latter : List Move) (instances : Instances) :
    instances.run (former ++ latter) = (instances.run former).run latter :=
  List.foldl_append

/-- Whether a process of a number runs and owns the file. -/
def isOwner (instances : Instances) (number : Nat) : Bool :=
  (instances.residents.lookup number).any (·.file.isOwned)

/-- Whether a process of a number runs and is done with all it has set about. -/
def isAtRest (instances : Instances) (number : Nat) : Bool :=
  (instances.residents.lookup number).any (·.work.isNone)

end Instances

/-- Whether the running processes have got to where is said of them. -/
def Describes (path : String) (standing : Nat → Option Standing)
    (residents : AList fun _ : Nat => Resident) : Prop :=
  ∀ number, residents.lookup number =
    (standing number).map (Standing.resident path number)

namespace Describes

variable {path : String} {standing : Nat → Option Standing}
  {residents : AList fun _ : Nat => Resident}

theorem insert (describes : Describes path standing residents) (own : Nat)
    (next : Standing) :
    Describes path (Function.update standing own (some next))
      (residents.insert own (next.resident path own)) := by
  intro number
  by_cases same : number = own
  · subst same
    simp
  · simpa [same] using describes number

theorem erase (describes : Describes path standing residents) (own : Nat) :
    Describes path (Function.update standing own none)
      (residents.erase own) := by
  intro number
  by_cases same : number = own
  · subst same
    simp
  · simpa [same] using describes number

theorem mem_keys (describes : Describes path standing residents) {number : Nat}
    {current : Standing} (running : standing number = some current) :
    number ∈ residents.keys := by
  rw [← AList.mem_keys, ← AList.lookup_isSome, describes, running]
  rfl

end Describes

/-- After a step of one process it is that process that is asked about, or
another one that is where it was. -/
theorem of_update {standing : Nat → Option Standing} {own number : Nat}
    {next reached : Standing}
    (found : Function.update standing own (some next) number = some reached) :
    number = own ∧ reached = next ∨ number ≠ own ∧
      standing number = some reached := by
  by_cases same : number = own
  · subst same
    rw [Function.update_self] at found
    exact .inl ⟨rfl, (Option.some.inj found).symm⟩
  · rw [Function.update_of_ne same] at found
    exact .inr ⟨same, found⟩

def Holds (standing : Nat → Option Standing) (number : Nat) : Prop :=
  ∃ current, standing number = some current ∧ current.isHolding = true

/-- Where the processes have got to that heed what they read. -/
structure Guarded (instances : Instances) (standing : Nat → Option Standing) :
    Prop where
  residents : Describes instances.path standing instances.residents
  possible : ∀ number current, standing number = some current →
    number ≤ greatestNumber
  sound : instances.disk.Sound
  alone : ∀ one other, Holds standing one → Holds standing other → one = other
  marks : ∀ number current, standing number = some current →
    current.isHolding = true →
    current.Marks instances.path number instances.disk
  informed : ∀ number current, number ∈ instances.log.foldl informedAfter [] →
    standing number = some current → ∀ holder, Holds standing holder →
      current.stage.Permits number holder

section Steps

variable {instances : Instances} {standing : Nat → Option Standing} {own : Nat}
  {current next : Standing} {after : Files.Disk} {log : List Deed}

theorem holds_update {holder : Nat}
    (holds : Holds (Function.update standing own (some next)) holder) :
    holder = own ∧ next.isHolding = true ∨ holder ≠ own ∧
      Holds standing holder := by
  obtain ⟨reached, found, holding⟩ := holds
  rcases of_update found with ⟨same, rfl⟩ | ⟨apart, before⟩
  · exact .inl ⟨same, holding⟩
  · exact .inr ⟨apart, reached, before, holding⟩

theorem mem_informedAfter {informed : List Nat} {deed : Deed} {number : Nat}
    (among : number ∈ informedAfter informed deed) :
    number = deed.1 ∨ number ∈ informed := by
  unfold informedAfter at among
  split at among
  · cases among
  · split at among
    · exact List.mem_cons.1 among
    · exact .inr among

/-- What is left to show of a step of one process. -/
theorem Guarded.advance (guarded : Guarded instances standing)
    (possible : own ≤ greatestNumber) (sound : after.Sound)
    (mark : next.isHolding = true → next.Marks instances.path own after)
    (others : ∀ other reached, other ≠ own → standing other = some reached →
      reached.isHolding = true → reached.Marks instances.path other after)
    (alone : next.isHolding = true →
      ∀ holder, Holds standing holder → holder = own)
    (informed : ∀ number reached, number ∈ log.foldl informedAfter [] →
      Function.update standing own (some next) number = some reached →
      ∀ holder, Holds (Function.update standing own (some next)) holder →
        reached.stage.Permits number holder) :
    Guarded ⟨instances.path, after,
        instances.residents.insert own (next.resident instances.path own), log⟩
      (Function.update standing own (some next)) where
  residents := guarded.residents.insert own next
  possible number reached found := by
    rcases of_update found with ⟨rfl, -⟩ | ⟨-, before⟩
    · exact possible
    · exact guarded.possible number reached before
  sound := sound
  alone one other holds holds' := by
    rcases holds_update holds with ⟨rfl, holding⟩ | ⟨apart, before⟩
    · rcases holds_update holds' with ⟨same, -⟩ | ⟨-, before'⟩
      · exact same.symm
      · exact (alone holding other before').symm
    · rcases holds_update holds' with ⟨rfl, holding⟩ | ⟨-, before'⟩
      · exact alone holding one before
      · exact guarded.alone one other before before'
  marks number reached found holding := by
    rcases of_update found with ⟨rfl, rfl⟩ | ⟨apart, before⟩
    · exact mark holding
    · exact others number reached apart before holding
  informed := informed

theorem Guarded.alone_of_holding (guarded : Guarded instances standing)
    (found : standing own = some current) (holding : current.isHolding = true)
    (holder : Nat) (holds : Holds standing holder) : holder = own :=
  guarded.alone holder own holds ⟨current, found, holding⟩

/-- Whatever a lone holder does to the disk, no other process has marks on it to
lose. -/
theorem marks_of_alone {path : String}
    (alone : ∀ holder, Holds standing holder → holder = own) :
    ∀ other reached, other ≠ own → standing other = some reached →
      reached.isHolding = true → Standing.Marks path other after reached :=
  fun other reached apart known holding =>
    absurd (alone other ⟨reached, known, holding⟩) apart

/-- A step after which the process holds the file only if it did so before. -/
theorem Guarded.carry (guarded : Guarded instances standing)
    (found : standing own = some current) (sound : after.Sound)
    (held : next.isHolding = true → current.isHolding = true)
    (mark : next.isHolding = true → next.Marks instances.path own after)
    (others : ∀ other reached, other ≠ own → standing other = some reached →
      reached.isHolding = true → reached.Marks instances.path other after)
    (informed : ∀ number ∈ log.foldl informedAfter [],
      number = own ∨ number ∈ instances.log.foldl informedAfter [])
    (permits : own ∈ log.foldl informedAfter [] →
      ∀ holder, Holds standing holder → next.stage.Permits own holder) :
    Guarded ⟨instances.path, after,
        instances.residents.insert own (next.resident instances.path own), log⟩
      (Function.update standing own (some next)) := by
  have before {holder : Nat}
      (holds : Holds (Function.update standing own (some next)) holder) :
      Holds standing holder := by
    rcases holds_update holds with ⟨rfl, holding⟩ | ⟨-, before⟩
    · exact ⟨current, found, held holding⟩
    · exact before
  refine guarded.advance (guarded.possible own current found) sound mark others
    (fun holding => guarded.alone_of_holding found (held holding)) ?_
  intro number reached among reachedFact holder holds
  rcases of_update reachedFact with ⟨rfl, rfl⟩ | ⟨apart, knownBefore⟩
  · exact permits among holder (before holds)
  · exact guarded.informed number reached
      ((informed number among).resolve_left apart) knownBefore
      holder (before holds)

/-- A step of a process that neither holds the file anew nor gives it up. -/
theorem Guarded.calmly {isOwned : Bool} {stage reached : Stage}
    (guarded : Guarded instances standing)
    (found : standing own = some ⟨isOwned, stage⟩)
    (calm : stage.isHolding = false) (calm' : reached.isHolding = false)
    (grown : Files.Disk.Grown instances.disk after)
    (informed : ∀ number ∈ log.foldl informedAfter [],
      number = own ∨ number ∈ instances.log.foldl informedAfter [])
    (permits : own ∈ log.foldl informedAfter [] →
      ∀ holder, Holds standing holder → reached.Permits own holder) :
    Guarded ⟨instances.path, after, instances.residents.insert own
        (Standing.resident instances.path own ⟨isOwned, reached⟩), log⟩
      (Function.update standing own (some ⟨isOwned, reached⟩)) := by
  have same : Standing.isHolding ⟨isOwned, reached⟩ =
      Standing.isHolding ⟨isOwned, stage⟩ := by
    rw [Standing.isHolding, Standing.isHolding, calm, calm']
  refine guarded.carry found (grown.sound guarded.sound)
    (fun holding => same ▸ holding) ?_ (fun other current _ known holding =>
      (guarded.marks other current known holding).grown grown)
    informed permits
  intro holding
  have marks := (guarded.marks own _ found (same ▸ holding)).grown grown
  exact (Standing.marks_iff calm').2 ((Standing.marks_iff calm).1 marks)

/-- Whoever reads the file while it is held finds the number of the holder, or
none at all while the holder is writing it. -/
theorem Guarded.interpret_eq (guarded : Guarded instances standing)
    {holder : Nat} (holds : Holds standing holder) (file : PidFile) :
    file.interpret (instances.disk.read instances.path) = .ok (some holder) ∨
      ∃ error, file.interpret (instances.disk.read instances.path) =
        .error error := by
  obtain ⟨current, found, holding⟩ := holds
  have marks := guarded.marks holder current found holding
  unfold Standing.Marks at marks
  split at marks
  · rw [marks.read_eq]
    exact .inr ⟨_, file.interpret_nil⟩
  · obtain ⟨number, shows⟩ := marks
    rw [shows.read_eq]
    exact .inl (file.interpret_number (guarded.possible holder current found))

/-- Every stride keeps what is known, as long as nobody empties the file who has
not read it since it was emptied last. -/
theorem Guarded.stride {isOwned : Bool} {stage : Stage}
    {exchange : Exchange Host.Request.Answer}
    (guarded : Guarded instances standing)
    (found : standing own = some ⟨isOwned, stage⟩)
    (heedful : isHeedful [] (instances.log ++ [(own, exchange)]) = true)
    (stride : Stride instances.path own instances.residents.keys isOwned
      instances.disk stage exchange next after) :
    Guarded ⟨instances.path, after,
        instances.residents.insert own (next.resident instances.path own),
        instances.log ++ [(own, exchange)]⟩
      (Function.update standing own (some next)) := by
  have informed (number : Nat)
      (among : number ∈ (instances.log ++ [(own, exchange)]).foldl
        informedAfter []) :
      number = own ∨ number ∈ instances.log.foldl informedAfter [] := by
    rw [List.foldl_append] at among
    exact mem_informedAfter among
  -- Unless the step is a look at the file, the process knows of the holders
  -- what it knew before.
  have permits (silent : reads exchange = false)
      (among : own ∈ (instances.log ++ [(own, exchange)]).foldl
        informedAfter [])
      (holder : Nat) (holds : Holds standing holder) :
        stage.Permits own holder := by
    rw [List.foldl_append] at among
    refine guarded.informed own _ ?_ found holder holds
    simp only [List.foldl_cons, List.foldl_nil, informedAfter, silent] at among
    split at among
    · cases among
    · exact among
  cases stride with
  | unreadable error shown =>
    exact guarded.calmly found rfl rfl (.refl _) informed fun _ _ _ => trivial
  | foundNobody shown =>
    refine guarded.calmly found rfl rfl (.refl _) informed
      fun _ holder holds => ?_
    rcases guarded.interpret_eq holds ⟨instances.path, isOwned⟩ with
      seen | ⟨_, seen⟩ <;> exact nomatch shown.symm.trans seen
  | found number shown =>
    refine guarded.calmly found rfl rfl (.refl _) informed
      fun _ holder holds => ?_
    rcases guarded.interpret_eq holds ⟨instances.path, isOwned⟩ with
      seen | ⟨_, seen⟩
    · have same := Option.some.inj (Except.ok.inj (shown.symm.trans seen))
      exact same.symm
    · exact nomatch shown.symm.trans seen
  | passed number cause =>
    refine guarded.calmly found rfl rfl (.refl _) informed
      fun among holder holds => ?_
    have same : holder = number := permits rfl among holder holds
    rcases cause with rfl | impossible
    · exact same
    · obtain ⟨current, known, -⟩ := holds
      have possible := guarded.possible holder current known
      omega
  | doubted number =>
    exact guarded.calmly found rfl rfl (.refl _) informed (permits rfl)
  | met number =>
    exact guarded.calmly found rfl rfl (.refl _) informed fun _ _ _ => trivial
  | gone number absent =>
    refine guarded.calmly found rfl rfl (.refl _) informed
      fun among holder holds => ?_
    have same : holder = number := permits rfl among holder holds
    obtain ⟨current, known, -⟩ := holds
    exact absurd (same ▸ guarded.residents.mem_keys known) absent
  | claimed =>
    exact guarded.calmly found rfl rfl (.refl _) informed (permits rfl)
  | wayMade grown =>
    exact guarded.calmly found rfl rfl grown informed (permits rfl)
  | noWay fault grown =>
    exact guarded.calmly found rfl rfl grown informed fun _ _ _ => trivial
  | emptied number opened =>
    obtain ⟨sound, shows⟩ := guarded.sound.showsFile_truncate opened
    have alone (holder : Nat) (holds : Holds standing holder) :
        holder = own := by
      rw [isHeedful_append, Bool.and_eq_true] at heedful
      have among : own ∈ instances.log.foldl informedAfter [] := by
        simpa [isHeedful, empties] using heedful.2
      exact guarded.informed own _ among found holder holds
    refine guarded.advance (guarded.possible own _ found) sound (fun _ => shows)
      (marks_of_alone alone) (fun _ => alone) ?_
    intro number reached among
    rw [List.foldl_append] at among
    cases among
  | notEmptied fault =>
    exact guarded.calmly found rfl rfl (.refl _) informed fun _ _ _ => trivial
  | filled number =>
    have holding : Standing.isHolding ⟨isOwned, .filling number⟩ = true :=
      Standing.isHolding_of_stage rfl
    have shows : instances.disk.ShowsFile instances.path number [] :=
      guarded.marks own _ found holding
    exact guarded.carry found (guarded.sound.write number _) (fun _ => holding)
      (fun _ => ⟨number, guarded.sound.showsFile_write shows _⟩)
      (marks_of_alone (guarded.alone_of_holding found holding)) informed
      fun _ _ _ => trivial
  | removed answer =>
    have holding : Standing.isHolding ⟨isOwned, .removing⟩ = true :=
      Standing.isHolding_of_stage rfl
    exact guarded.carry found (guarded.sound.remove _) nofun nofun
      (marks_of_alone (guarded.alone_of_holding found holding)) informed
      fun _ _ _ => trivial

theorem Guarded.exists_standing (guarded : Guarded instances standing)
    {resident : Resident}
    (known : instances.residents.lookup own = some resident) :
    ∃ current, standing own = some current ∧
      resident = current.resident instances.path own := by
  rw [guarded.residents] at known
  obtain ⟨current, found, same⟩ := Option.map_eq_some_iff.1 known
  exact ⟨current, found, same.symm⟩

/-- A process that is at rest may own the file and does nothing else with it. -/
theorem Guarded.exists_resting (guarded : Guarded instances standing)
    {file : PidFile}
    (known : instances.residents.lookup own = some ⟨file, none⟩) :
    standing own = some ⟨file.isOwned, .resting⟩ ∧
      file.path = instances.path := by
  obtain ⟨⟨isOwned, stage⟩, found, same⟩ := guarded.exists_standing known
  obtain ⟨rfl, rest⟩ := Resident.mk.inj same
  obtain rfl := Stage.rest_eq_none_iff.1 rest.symm
  exact ⟨found, rfl⟩

/-! ## Moves -/

theorem Guarded.arrive (guarded : Guarded instances standing)
    (possible : own ≤ greatestNumber) :
    Guarded { instances with
        residents :=
          instances.residents.insert own ⟨.atPath instances.path, none⟩ }
      (Function.update standing own (some ⟨false, .resting⟩)) := by
  have arrived : Guarded ⟨instances.path, instances.disk,
      instances.residents.insert own
        (Standing.resident instances.path own ⟨false, .resting⟩), instances.log⟩
      (Function.update standing own (some ⟨false, .resting⟩)) := by
    refine guarded.advance possible guarded.sound nofun
      (fun other reached _ known holding =>
        guarded.marks other reached known holding) nofun ?_
    intro number reached among found holder holds
    rcases holds_update holds with ⟨-, holding⟩ | ⟨-, before⟩
    · cases holding
    · rcases of_update found with ⟨-, rfl⟩ | ⟨-, knownBefore⟩
      · trivial
      · exact guarded.informed number reached among knownBefore holder before
  exact arrived

theorem Guarded.leave (guarded : Guarded instances standing) (own : Nat) :
    Guarded { instances with residents := instances.residents.erase own }
      (Function.update standing own none) := by
  have before {number : Nat} {current : Standing}
      (found : Function.update standing own none number = some current) :
      number ≠ own ∧ standing number = some current := by
    by_cases same : number = own
    · rw [same, Function.update_self] at found
      cases found
    · exact ⟨same, (Function.update_of_ne same none standing).symm.trans found⟩
  have held {number : Nat}
      (holds : Holds (Function.update standing own none) number) :
      Holds standing number := by
    obtain ⟨current, found, holding⟩ := holds
    exact ⟨current, (before found).2, holding⟩
  exact {
    residents := guarded.residents.erase own
    possible := fun number current found =>
      guarded.possible number current (before found).2
    sound := guarded.sound
    alone := fun one other holds holds' =>
      guarded.alone one other (held holds) (held holds')
    marks := fun number current found =>
      guarded.marks number current (before found).2
    informed := fun number current among found holder holds =>
      guarded.informed number current among (before found).2 holder
        (held holds) }

theorem Guarded.acquire (guarded : Guarded instances standing) {file : PidFile}
    (known : instances.residents.lookup own = some ⟨file, none⟩) :
    Guarded { instances with
        residents :=
          instances.residents.insert own (.goingOn file file.engage) }
      (Function.update standing own (some ⟨file.isOwned, .reading⟩)) := by
  obtain ⟨found, path⟩ := guarded.exists_resting known
  have next : Resident.goingOn file file.engage =
      Standing.resident instances.path own ⟨file.isOwned, .reading⟩ := by
    rw [PidFile.engage_eq, ← path]
    rfl
  rw [next]
  exact guarded.calmly found rfl rfl (.refl _) (fun _ => .inr)
    fun _ _ _ => trivial

theorem Guarded.release (guarded : Guarded instances standing) {file : PidFile}
    (known : instances.residents.lookup own = some ⟨file, none⟩) :
    ∃ next, Guarded { instances with
        residents := instances.residents.insert own
          (.goingOn { file with isOwned := false } file.disengage) }
      (Function.update standing own (some next)) := by
  obtain ⟨found, path⟩ := guarded.exists_resting known
  cases owned : file.isOwned with
  | true =>
    have next : Resident.goingOn { file with isOwned := false } file.disengage =
        Standing.resident instances.path own ⟨false, .removing⟩ := by
      rw [file.disengage_eq owned, ← path]
      rfl
    have holding : Standing.isHolding ⟨file.isOwned, .resting⟩ = true := by
      rw [owned]
      rfl
    have marks := guarded.marks own _ found holding
    rw [next]
    exact ⟨⟨false, .removing⟩,
      guarded.carry found guarded.sound (fun _ => holding) (fun _ => marks)
      (fun other current _ known holding =>
        guarded.marks other current known holding)
      (fun _ => .inr) fun _ _ _ => trivial⟩
  | false =>
    have next : Resident.goingOn { file with isOwned := false } file.disengage =
        Standing.resident instances.path own ⟨false, .resting⟩ := by
      rw [← path]
      obtain ⟨path, isOwned⟩ := file
      obtain rfl : isOwned = false := owned
      rfl
    rw [owned] at found
    rw [next]
    exact ⟨⟨false, .resting⟩,
      guarded.calmly found rfl rfl (.refl _) (fun _ => .inr)
      fun _ _ _ => trivial⟩

theorem Guarded.proceed (guarded : Guarded instances standing) (own : Nat)
    (heedful : isHeedful [] (instances.proceed own).log = true) :
    ∃ standing, Guarded (instances.proceed own) standing := by
  unfold Instances.proceed at heedful ⊢
  split
  · next file request resume known =>
    rw [known] at heedful
    obtain ⟨⟨isOwned, stage⟩, found, same⟩ := guarded.exists_standing known
    obtain ⟨rfl, rest⟩ := Resident.mk.inj same
    have busy : stage ≠ .resting := by
      rintro rfl
      cases rest
    have leads :
        PidFile.LeadsOn instances.path own instances.residents.keys isOwned
          instances.disk stage := PidFile.leadsOn_of_ne_resting busy
    obtain ⟨_, _, left, next, resident, stride⟩ := leads
    cases Option.some.inj (rest.trans left)
    have reached := guarded.stride found heedful stride
    rw [← resident] at reached
    exact ⟨_, reached⟩
  · exact ⟨standing, guarded⟩

theorem Guarded.move (guarded : Guarded instances standing)
    (move : Instances.Move)
    (heedful : isHeedful [] (instances.move move).log = true) :
    ∃ standing, Guarded (instances.move move) standing := by
  cases move with
  | arrive number =>
    rw [Instances.move]
    split
    · next possible => exact ⟨_, guarded.arrive possible.2.1⟩
    · exact ⟨standing, guarded⟩
  | leave number => exact ⟨_, guarded.leave number⟩
  | acquire number =>
    rw [Instances.move, Instances.engage]
    split
    · next file known => exact ⟨_, guarded.acquire known⟩
    · exact ⟨standing, guarded⟩
  | release number =>
    rw [Instances.move, Instances.engage]
    split
    · next file known =>
      obtain ⟨next, reached⟩ := guarded.release known
      exact ⟨_, reached⟩
    · exact ⟨standing, guarded⟩
  | proceed number => exact guarded.proceed number heedful

end Steps

section Runs

theorem guarded_start (path : String) {disk : Files.Disk} (sound : disk.Sound) :
    Guarded (.start path disk) fun _ => none where
  residents _ := rfl
  possible := nofun
  sound := sound
  alone := nofun
  marks := nofun
  informed := nofun

/-- The log only grows, and the path of the file stays. -/
theorem Instances.exists_log_move (instances : Instances) (move : Move) :
    (instances.move move).path = instances.path ∧
      ∃ shown, (instances.move move).log = instances.log ++ shown := by
  have still : instances.path = instances.path ∧
      ∃ shown, instances.log = instances.log ++ shown :=
    ⟨rfl, [], (List.append_nil _).symm⟩
  cases move with
  | arrive number =>
    rw [Instances.move]
    split <;> exact still
  | leave number => exact still
  | acquire number =>
    rw [Instances.move, engage]
    split <;> exact still
  | release number =>
    rw [Instances.move, engage]
    split <;> exact still
  | proceed number =>
    rw [Instances.move, proceed]
    split
    · exact ⟨rfl, _, rfl⟩
    · exact still

theorem exists_guarded (path : String) {disk : Files.Disk} (sound : disk.Sound)
    (moves : List Instances.Move)
    (heedful :
      isHeedful [] ((Instances.start path disk).run moves).log = true) :
    ((Instances.start path disk).run moves).path = path ∧
      ∃ standing, Guarded ((Instances.start path disk).run moves) standing := by
  induction moves using List.reverseRecOn with
  | nil => exact ⟨rfl, _, guarded_start path sound⟩
  | append_singleton moves move movesFact =>
    have last : (Instances.start path disk).run (moves ++ [move]) =
        ((Instances.start path disk).run moves).move move :=
      List.foldl_concat ..
    rw [last] at heedful ⊢
    obtain ⟨samePath, shown, log⟩ := Instances.exists_log_move _ move
    have before := heedful
    rw [log, isHeedful_append, Bool.and_eq_true] at before
    obtain ⟨path, standing, guarded⟩ := movesFact before.1
    exact ⟨samePath.trans path, guarded.move move heedful⟩

/-- Whoever owns the file holds it. -/
theorem Guarded.exists_owner {instances : Instances}
    {standing : Nat → Option Standing} {own : Nat}
    (guarded : Guarded instances standing)
    (owner : instances.isOwner own = true) :
    ∃ stage, standing own = some ⟨true, stage⟩ := by
  obtain ⟨resident, known, owned⟩ := Option.any_eq_true _ _ |>.1 owner
  obtain ⟨⟨isOwned, stage⟩, found, rfl⟩ := guarded.exists_standing known
  obtain rfl : isOwned = true := owned
  exact ⟨stage, found⟩

end Runs

namespace Instances

/-- All that can be seen of a machine. -/
structure StandsAt (path : String) (disk : Files.Disk)
    (standing : Nat → Option Standing) (log : List Deed)
    (instances : Instances) : Prop where
  residents : Describes path standing instances.residents
  path : instances.path = path
  disk : instances.disk = disk
  log : instances.log = log

section Turns

variable {path : String} {disk after : Files.Disk}
  {standing : Nat → Option Standing} {log : List Deed} {instances : Instances}
  {own : Nat} {isOwned : Bool} {stage : Stage}

theorem StandsAt.proceed (stands : StandsAt path disk standing log instances)
    (found : standing own = some ⟨isOwned, stage⟩) (next : Standing)
    {request : Host.Request} {resume : request.Answer → Host.Work PidFile}
    {given : request.Answer}
    (rest : stage.rest ⟨path, isOwned⟩ own = some (.ask request resume))
    (answered : Host.answer request ⟨disk, own, instances.residents.keys, []⟩ =
      (given, ⟨after, own, instances.residents.keys, []⟩))
    (reached : Resident.goingOn ⟨path, isOwned⟩ (resume given) =
      next.resident path own) :
    StandsAt path after (Function.update standing own (some next))
      (log ++ [(own, ⟨request, given⟩)]) (instances.move (.proceed own)) := by
  have known : instances.residents.lookup own =
      some ⟨⟨path, isOwned⟩, some (.ask request resume)⟩ := by
    rw [stands.residents, found, Option.map_some, Standing.resident, rest]
  rw [← stands.disk] at answered
  have moved : instances.move (.proceed own) = ⟨instances.path, after,
      instances.residents.insert own (next.resident path own),
      instances.log ++ [(own, ⟨request, given⟩)]⟩ := by
    simp only [move, Instances.proceed, known, answered, reached]
  rw [moved]
  exact ⟨stands.residents.insert own next, stands.path, rfl, by rw [stands.log]⟩

theorem StandsAt.arrive (stands : StandsAt path disk standing log instances)
    (free : standing own = none) (positive : 0 < own)
    (possible : own ≤ greatestNumber) :
    StandsAt path disk
      (Function.update standing own (some ⟨false, .resting⟩)) log
      (instances.move (.arrive own)) := by
  have absent : own ∉ instances.residents := by
    rw [← AList.lookup_eq_none, stands.residents, free, Option.map_none]
  rw [move, if_pos ⟨positive, possible, absent⟩]
  rw [stands.path]
  exact ⟨stands.residents.insert own ⟨false, .resting⟩, rfl,
    stands.disk, stands.log⟩

theorem StandsAt.acquire (stands : StandsAt path disk standing log instances)
    (found : standing own = some ⟨isOwned, .resting⟩) :
    StandsAt path disk
      (Function.update standing own (some ⟨isOwned, .reading⟩)) log
      (instances.move (.acquire own)) := by
  have known : instances.residents.lookup own =
      some ⟨⟨path, isOwned⟩, none⟩ := by
    rw [stands.residents, found]
    rfl
  have moved : instances.move (.acquire own) = { instances with
      residents := instances.residents.insert own
        (Standing.resident path own ⟨isOwned, .reading⟩) } := by
    simp only [move, engage, known, PidFile.engage_eq]
    rfl
  rw [moved]
  exact ⟨stands.residents.insert own _, stands.path, stands.disk, stands.log⟩

/-- Whoever finds no file goes on to write one. -/
theorem StandsAt.findNobody (stands : StandsAt path disk standing log instances)
    (own : Nat) (found : standing own = some ⟨isOwned, .resting⟩)
    (missing : disk.read path = .error .notFound) :
    StandsAt path disk
      (Function.update standing own (some ⟨isOwned, .claiming⟩))
      (log ++ [(own, ⟨.file (.read path), .error .notFound⟩)])
      (instances.run [.acquire own, .proceed own]) := by
  have looked :=
    (stands.acquire found).proceed (Function.update_self ..)
      ⟨isOwned, .claiming⟩ rfl
      (by rw [Host.answer, Files.Disk.answer, missing]) rfl
  rw [Function.update_idem] at looked
  exact looked

theorem answer_send {running : List Nat} {other : Nat}
    (among : other ∈ running) :
    Host.answer (.send other none) ⟨disk, own, running, []⟩ =
      (.ok (), ⟨disk, own, running, []⟩) := by
  have there : (Processes.mk own running []).canReach other = true := by
    simp [Processes.canReach, among]
  simp only [Host.answer, Processes.send, there, if_true]
  rfl

/-- Whoever finds the number of another running process has the file as
before. -/
theorem StandsAt.findOther (stands : StandsAt path disk standing log instances)
    (own other : Nat) (found : standing own = some ⟨isOwned, .resting⟩)
    {current : Standing} (running : standing other = some current)
    (apart : other ≠ own) (possible : other ≤ greatestNumber)
    (shows : disk.read path = .ok (Bytes.ofText (toString other))) :
    StandsAt path disk (Function.update standing own (some ⟨isOwned, .resting⟩))
      (log ++ [(own, ⟨.file (.read path), .ok (Bytes.ofText (toString other))⟩),
        (own, ⟨.ownNumber, own⟩), (own, ⟨.send other none, .ok ()⟩)])
      (instances.run [.acquire own, .proceed own, .proceed own,
        .proceed own]) := by
  have looked := (stands.acquire found).proceed (Function.update_self ..)
    ⟨isOwned, .comparing other⟩ rfl
    (by rw [Host.answer, Files.Disk.answer, shows])
    (congrArg (fun outcome =>
        Resident.goingOn ⟨path, isOwned⟩ (PidFile.looked _ outcome))
      (PidFile.interpret_number ⟨path, isOwned⟩ possible))
  have doubted : PidFile.compared ⟨path, isOwned⟩ own other =
      PidFile.test ⟨path, isOwned⟩ other := by
    rw [PidFile.compared, if_neg apart, if_pos possible]
  have compared :=
    looked.proceed (Function.update_self ..) ⟨isOwned, .testing other⟩ rfl rfl
      (congrArg (Resident.goingOn ⟨path, isOwned⟩) doubted)
  simp only [Function.update_idem] at compared
  have among :=
    compared.residents.mem_keys
      ((Function.update_of_ne apart _ _).trans running)
  have tested :=
    compared.proceed (Function.update_self ..) ⟨isOwned, .resting⟩ rfl
      (answer_send among) rfl
  simp only [Function.update_idem, List.append_assoc, List.singleton_append]
    at tested
  exact tested

/-- Whoever has found nobody and is not disturbed owns the file. -/
theorem StandsAt.write (stands : StandsAt path disk standing log instances)
    (own : Nat) (found : standing own = some ⟨isOwned, .claiming⟩)
    {number : Nat}
    (made : disk.makeFolders ((Files.parent? path).getD "") = (.ok (), disk))
    (opened : disk.truncate path = (.ok number, after)) :
    StandsAt path (after.write number (Bytes.ofText (toString own)))
      (Function.update standing own (some ⟨true, .resting⟩))
      (log ++ [(own, ⟨.ownNumber, own⟩),
        (own, ⟨.file (.makeFolders ((Files.parent? path).getD "")), .ok ()⟩),
        (own, ⟨.file (.truncate path), .ok number⟩),
        (own, ⟨.file (.write number (Bytes.ofText (toString own))), .ok ()⟩)])
      (instances.run (List.replicate 4 (.proceed own))) := by
  have claimed := stands.proceed found ⟨isOwned, .makingWay⟩ rfl rfl rfl
  have wayMade :=
    claimed.proceed (Function.update_self ..) ⟨isOwned, .emptying⟩ rfl
      (by rw [Host.answer, Files.Disk.answer, made]) rfl
  have emptied :=
    wayMade.proceed (Function.update_self ..) ⟨isOwned, .filling number⟩ rfl
      (by rw [Host.answer, Files.Disk.answer, opened]) rfl
  have filled :=
    emptied.proceed (Function.update_self ..) ⟨true, .resting⟩ rfl rfl rfl
  simp only [Function.update_idem, List.append_assoc, List.singleton_append]
    at filled
  exact filled

theorem StandsAt.isOwner_eq (stands : StandsAt path disk standing log instances)
    (number : Nat) :
    instances.isOwner number = (standing number).any (·.isOwned) := by
  rw [isOwner, stands.residents, Option.any_map]
  rfl

theorem StandsAt.isAtRest_eq
    (stands : StandsAt path disk standing log instances) (number : Nat) :
    instances.isAtRest number =
      (standing number).any (·.stage == .resting) := by
  rw [isAtRest, stands.residents, Option.any_map]
  refine congrArg (Option.any · _) (funext fun current => ?_)
  rw [Bool.eq_iff_iff, Option.isNone_iff_eq_none, beq_iff_eq]
  exact Stage.rest_eq_none_iff

end Turns

end Instances

/-! ## Two processes -/

section Duel

open Files (Disk placeOf)
open Instances (StandsAt)
open Store (lone isOpen_srv)

def duelPath : String := Files.join "" "autoswitch.pid"

theorem isPlain_pidFileName : Files.IsPlain "autoswitch.pid" :=
  ⟨by decide, by decide, by decide⟩

theorem placeOf_duelPath :
    placeOf ["srv"] duelPath = ["srv"] ++ ["autoswitch.pid"] := by
  rw [duelPath, isPlain_pidFileName.placeOf_join, Files.placeOf_empty]

variable {disk : Disk} (bytes : Bytes)

theorem makeFolders_duelPath (working : disk.working = ["srv"])
    (opened : disk.IsOpen ["srv"]) :
    disk.makeFolders ((Files.parent? duelPath).getD "") = (.ok (), disk) := by
  refine Files.Disk.makeFolders_of_isOpen ?_ opened
  rw [duelPath, isPlain_pidFileName.placeOf_parent?_join, working,
    Files.placeOf_empty]

theorem read_blank : (Disk.blank ["srv"]).read duelPath = .error .notFound :=
  Files.Disk.read_of_isOpen placeOf_duelPath (isOpen_srv rfl)

theorem read_lone :
    (lone "autoswitch.pid" bytes).read duelPath = .ok bytes := by
  have leads : placeOf (lone "autoswitch.pid" bytes).working duelPath =
      ["srv"] ++ ["autoswitch.pid"] := placeOf_duelPath
  exact Files.Disk.read_of_isOpen leads (isOpen_srv rfl)

theorem truncate_blank :
    (Disk.blank ["srv"]).truncate duelPath =
      (.ok 0, lone "autoswitch.pid" []) := by
  have opened : (Disk.blank ["srv"]).IsOpen ["srv"] := isOpen_srv rfl
  rw [Files.Disk.truncate, Files.Disk.reach_of_isOpen placeOf_duelPath opened]
  rfl

theorem truncate_lone :
    (lone "autoswitch.pid" bytes).truncate duelPath =
      (.ok 0, lone "autoswitch.pid" []) := by
  have opened : (lone "autoswitch.pid" bytes).IsOpen ["srv"] := isOpen_srv rfl
  rw [Files.Disk.truncate, Files.Disk.reach_of_isOpen placeOf_duelPath opened]
  rfl

/-- A machine with two processes in a folder without a file. -/
def duel : Instances :=
  (Instances.start duelPath (Disk.blank ["srv"])).run [.arrive 7, .arrive 8]

def duelStanding : Nat → Option Standing :=
  Function.update (Function.update (fun _ => none) 7 (some ⟨false, .resting⟩)) 8
    (some ⟨false, .resting⟩)

theorem standsAt_duel :
    StandsAt duelPath (Disk.blank ["srv"]) duelStanding [] duel := by
  have nobody : StandsAt duelPath (Disk.blank ["srv"]) (fun _ => none) []
      (.start duelPath (Disk.blank ["srv"])) := ⟨fun _ => rfl, rfl, rfl, rfl⟩
  exact (nobody.arrive rfl (by decide) (by decide)).arrive rfl
    (by decide) (by decide)

end Duel

section Owners

open Files (Disk)
open Store (isOpen_srv)

/-- Whatever the disk holds at first and however processes come and go, acquire
and release the file: as long as nobody empties the file who has not read it
since it was emptied last, no two running processes own it. An owner that is at
rest finds its number in the file. -/
theorem owner_unique_of_heedful (path : String) {disk : Files.Disk}
    (sound : disk.Sound) (moves : List Instances.Move)
    (heedful :
      isHeedful [] ((Instances.start path disk).run moves).log = true) :
    let instances := (Instances.start path disk).run moves
    (∀ one other, instances.isOwner one = true →
        instances.isOwner other = true → one = other) ∧
      ∀ number, instances.isOwner number = true →
        instances.isAtRest number = true →
        instances.disk.read path = .ok (Bytes.ofText (toString number)) := by
  intro instances
  obtain ⟨samePath, standing, guarded⟩ :=
    exists_guarded path sound moves heedful
  refine ⟨fun one other owner owner' => ?_, fun number owner atRest => ?_⟩
  · obtain ⟨stage, found⟩ := guarded.exists_owner owner
    obtain ⟨stage', found'⟩ := guarded.exists_owner owner'
    exact guarded.alone one other ⟨_, found, rfl⟩ ⟨_, found', rfl⟩
  · obtain ⟨stage, found⟩ := guarded.exists_owner owner
    obtain ⟨resident, known, rested⟩ := Option.any_eq_true _ _ |>.1 atRest
    obtain ⟨current, found', rfl⟩ := guarded.exists_standing known
    obtain rfl := Option.some.inj (found.symm.trans found')
    obtain rfl := Stage.rest_eq_none_iff.1 (Option.isNone_iff_eq_none.1 rested)
    obtain ⟨content, shows⟩ := guarded.marks number _ found rfl
    rw [samePath] at shows
    exact shows.read_eq

/-- One process looks and writes, and then the other one looks. -/
theorem owner_unique_beside_refused :
    let instances :=
      duel.run ([.acquire 7, .proceed 7] ++ List.replicate 4 (.proceed 7) ++
        [.acquire 8, .proceed 8, .proceed 8, .proceed 8])
    (Disk.blank ["srv"]).Sound ∧ isHeedful [] instances.log = true ∧
      instances.isOwner 7 = true ∧ instances.isAtRest 7 = true ∧
      (∀ other, instances.isOwner other = true → other = 7) ∧
      instances.disk.read duelPath = .ok (Bytes.ofText "7") := by
  intro instances
  have sound : (Disk.blank ["srv"]).Sound := Files.Disk.sound_blank _
  have looked := standsAt_duel.findNobody 7 rfl read_blank
  have wrote :=
    looked.write 7 rfl (makeFolders_duelPath rfl (isOpen_srv rfl))
      truncate_blank
  have stands :=
    wrote.findOther 8 7 rfl rfl (by decide) (by decide) (read_lone _)
  simp only [← Instances.run_append] at stands
  have heedful : isHeedful [] instances.log = true :=
    (congrArg (isHeedful []) stands.log).trans rfl
  have owner : instances.isOwner 7 = true := (stands.isOwner_eq 7).trans rfl
  have atRest : instances.isAtRest 7 = true := (stands.isAtRest_eq 7).trans rfl
  have owners := owner_unique_of_heedful duelPath sound
    ([.arrive 7, .arrive 8] ++
      ([.acquire 7, .proceed 7] ++ List.replicate 4 (.proceed 7) ++
      [.acquire 8, .proceed 8, .proceed 8, .proceed 8]))
  rw [Instances.run_append] at owners
  obtain ⟨unique, shows⟩ := owners heedful
  exact ⟨sound, heedful, owner, atRest,
    fun other owner' => unique other 7 owner' owner, shows 7 owner atRest⟩

/-- Two processes look before either of them writes. Both then run and own the
file, which shows the number of the one that wrote last. -/
theorem two_owners_of_stale_look :
    let instances :=
      duel.run ([.acquire 7, .proceed 7] ++ [.acquire 8, .proceed 8] ++
        List.replicate 4 (.proceed 7) ++ List.replicate 4 (.proceed 8))
    instances.isOwner 7 = true ∧ instances.isOwner 8 = true ∧
      instances.disk.read duelPath = .ok (Bytes.ofText "8") := by
  intro instances
  have looked := standsAt_duel.findNobody 7 rfl read_blank
  have looked' := looked.findNobody 8 rfl read_blank
  have wrote :=
    looked'.write 7 rfl (makeFolders_duelPath rfl (isOpen_srv rfl))
      truncate_blank
  have stands :=
    wrote.write 8 rfl (makeFolders_duelPath rfl (isOpen_srv rfl))
      (truncate_lone _)
  simp only [← Instances.run_append] at stands
  exact ⟨(stands.isOwner_eq 7).trans rfl, (stands.isOwner_eq 8).trans rfl,
    (congrArg (Disk.read · duelPath) stands.disk).trans (read_lone _)⟩

end Owners

end Switchyard.Daemon
