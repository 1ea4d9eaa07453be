import Switchyard.CommandLine.Command
import Switchyard.Proofs.Instances

/-!
# The process that a number names

The number in the process number file says whom to signal, and whether it is
another process that runs. A number above zero names one process at most. If
that process is gone, the file is replaced. Zero names no process but a signal
to it reaches the whole group of the sender, so a file with that number is
always taken for the file of a daemon that runs.
-/

namespace Switchyard

namespace Files.Disk

variable {disk : Disk} {path : String} {bytes : Bytes}

theorem exists_showsFile (shown : disk.read path = .ok bytes) :
    ∃ number, disk.ShowsFile path number bytes := by
  rcases List.eq_nil_or_concat' (placeOf disk.working path) with
    top | ⟨home, name, leads⟩
  · rw [read, reach, top] at shown
    cases shown
  · cases way : disk.reach path with
    | error fault =>
      rw [read, way] at shown
      cases shown
    | ok place =>
      obtain ⟨-, opened⟩ := isOpen_of_reach leads way
      rw [read_of_isOpen leads opened] at shown
      split at shown
      · next found =>
        obtain rfl := Except.ok.inj shown
        obtain ⟨number, file, content⟩ := sight?_eq_file_iff.1 found
        exact ⟨number, home, name, leads, opened, file, content⟩
      · cases shown
      · cases shown

theorem ShowsFile.truncate_eq {number : Nat}
    (shows : disk.ShowsFile path number bytes) :
    disk.truncate path =
      (.ok number, { disk with contents := disk.contents.set number [] }) := by
  obtain ⟨home, name, leads, opened, found, -⟩ := shows
  rw [truncate, reach_of_isOpen leads opened]
  simp only [found]

/-- A file that can be read can be overwritten, and then it shows what was
written. -/
theorem Sound.exists_overwrite (sound : disk.Sound)
    (shown : disk.read path = .ok bytes) (written : Bytes) :
    ∃ after, disk.perform (overwrite path written) = (.ok (), after) ∧
      after.read path = .ok written := by
  obtain ⟨number, shows⟩ := exists_showsFile shown
  obtain ⟨sound, blank⟩ := sound.showsFile_truncate shows.truncate_eq
  refine ⟨_, ?_, (sound.showsFile_write blank written).read_eq⟩
  simp only [perform, overwrite, ask, Routine.call_bind,
    Routine.complete, answer, shows.truncate_eq]
  rfl

/-- The folder of a file that can be read is there. -/
theorem makeFolders_of_read {name : String} (named : lastName? path = some name)
    (shown : disk.read path = .ok bytes) :
    disk.makeFolders ((parent? path).getD "") = (.ok (), disk) := by
  obtain ⟨number, home, last, leads, opened, -⟩ := exists_showsFile shown
  rw [placeOf_of_lastName? named] at leads
  exact makeFolders_of_isOpen (List.append_inj_left' leads rfl) opened

end Files.Disk

namespace Host

theorem perform_bind {Result Next : Type} (work : Work Result)
    (next : Result → Work Next) (host : Host) :
    host.perform (work >>= next) =
      (host.perform work).2.perform (next (host.perform work).1) :=
  Routine.complete_bind answer work next host

end Host

namespace PidFile

open Daemon (greatestNumber isRunning)

variable {host : Host} {file : PidFile} {number : Nat}

/-- Without a signal it is only found out who can be reached, and the host stays
as it is. -/
theorem perform_probe (host : Host) (number : Nat) :
    host.perform (Host.ask (.send number none)) =
      (if host.processes.canReach number = true then .ok ()
        else .error .noSuchProcess, host) := by
  by_cases reached : host.processes.canReach number = true <;>
    simp [Host.perform, Host.ask, Routine.call, Routine.complete, Host.answer,
      Processes.send, reached]

theorem perform_isRunning (host : Host) (number : Nat) :
    host.perform (isRunning number) =
      (decide (number ≤ greatestNumber ∧ host.processes.canReach number = true),
        host) := by
  unfold isRunning
  by_cases possible : number ≤ greatestNumber
  · rw [if_pos possible, Host.perform_bind, perform_probe]
    by_cases reached : host.processes.canReach number = true
    · rw [if_pos reached]
      simp [Host.perform, Routine.complete, possible, reached]
    · rw [if_neg reached]
      simp [Host.perform, Routine.complete, reached]
  · rw [if_neg possible]
    simp [Host.perform, Routine.complete, possible]

theorem perform_read (host : Host) (file : PidFile) :
    host.perform file.read =
      (file.interpret (host.disk.read file.path), host) := rfl

theorem exists_perform_write {name : String} {bytes : Bytes}
    (sound : host.disk.Sound) (named : Files.lastName? file.path = some name)
    (shown : host.disk.read file.path = .ok bytes) :
    ∃ after, host.perform file.write =
        (.ok { file with isOwned := true }, { host with disk := after }) ∧
      after.read file.path =
        .ok (Bytes.ofText (toString host.processes.own)) := by
  obtain ⟨after, overwritten, shows⟩ :=
    sound.exists_overwrite shown (Bytes.ofText (toString host.processes.own))
  have made : host.disk.perform
      (Files.ask (.makeFolders ((Files.parent? file.path).getD ""))) =
      (.ok (), host.disk) := Files.Disk.makeFolders_of_read named shown
  have own : host.perform (Host.ask .ownNumber) = (host.processes.own, host) :=
    rfl
  refine ⟨after, ?_, shows⟩
  simp only [write, Host.perform_bind, own, Host.perform_onDisk,
    made, overwritten]
  rfl

/-- Whoever finds a number refuses the file if a signal would reach another
process there. -/
theorem perform_acquire_of_number
    (shown : file.interpret (host.disk.read file.path) = .ok (some number)) :
    host.perform file.acquire =
      if number ≠ host.processes.own ∧ number ≤ greatestNumber ∧
          host.processes.canReach number = true then
        (.error (.alreadyRunning file.path number), host)
      else host.perform file.write := by
  have own : host.perform (Host.ask .ownNumber) = (host.processes.own, host) :=
    rfl
  rw [acquire, Host.perform_bind, perform_read, shown]
  simp only [Host.perform_bind, own]
  by_cases same : number = host.processes.own
  · simp [same]
  · rw [if_neg same, Host.perform_bind, perform_isRunning]
    by_cases reached :
      number ≤ greatestNumber ∧ host.processes.canReach number = true
    · have other : number ≠ host.processes.own ∧ number ≤ greatestNumber ∧
          host.processes.canReach number = true := ⟨same, reached⟩
      rw [if_pos other, decide_eq_true reached]
      rfl
    · simp [reached]

/-- A number that reaches no process is replaced by the own one, and nobody gets
a signal. -/
theorem exists_perform_acquire_of_stale {name : String}
    (sound : host.disk.Sound) (named : Files.lastName? file.path = some name)
    (shown : file.interpret (host.disk.read file.path) = .ok (some number))
    (positive : number ≠ 0) (stale : number ∉ host.processes.running) :
    ∃ after, host.perform file.acquire =
        (.ok { file with isOwned := true }, { host with disk := after }) ∧
      after.read file.path =
        .ok (Bytes.ofText (toString host.processes.own)) := by
  have alone : ¬ (number ≠ host.processes.own ∧ number ≤ greatestNumber ∧
      host.processes.canReach number = true) := by
    rintro ⟨apart, -, reached⟩
    simp [Processes.canReach, positive, apart, stale] at reached
  obtain ⟨bytes, read⟩ : ∃ bytes, host.disk.read file.path = .ok bytes := by
    cases read : host.disk.read file.path with
    | ok bytes => exact ⟨bytes, rfl⟩
    | error fault =>
      rw [read] at shown
      cases fault <;> cases shown
  rw [perform_acquire_of_number shown, if_neg alone]
  exact exists_perform_write sound named read

end PidFile

namespace CommandLine

open Daemon (greatestNumber)
open Routine (Exchange Reaches)

/-- The signal that got through in an exchange, if one did, with the number it
was sent to. -/
def delivery? : Exchange Host.Request.Answer → Option (Nat × Signal)
  | ⟨.send target (some signal), .ok ()⟩ => some (target, signal)
  | _ => none

def deliveries (exchanges : List (Exchange Host.Request.Answer)) :
    List (Nat × Signal) :=
  exchanges.filterMap delivery?

/-- What comes of asking a daemon, by what the process number file shows: a
failure without any signal, or one signal to the number in the file. -/
inductive Asked (signal : ControlSignal)
    (shown : Except DaemonError (Option Nat)) :
    List (Nat × Signal) → Outcome → Prop where
  | inVain (message : String) : Asked signal shown [] (failure message)
  | delivered (number : Nat) (lines : List String) : shown = .ok (some number) →
    number ≤ greatestNumber →
    Asked signal shown [(number, signal.carrier)] ⟨lines, .done⟩

section Asking

variable (signal : ControlSignal)

def answered (number : Nat) : Except Undelivered Unit → Outcome
  | .error undelivered =>
    failure
      (DaemonError.signalSend signal.name number undelivered.message).message
  | .ok () =>
    let request := match signal with
      | .stop => "Stop"
      | .reload => "Reload"
    ⟨[request ++ " requested (PID " ++ toString number ++ ")"], .done⟩

/-- What is done about a process that a signal could reach, or could not. -/
def tested (number : Nat) : Except Undelivered Unit → Host.Work Outcome
  | .error .noSuchProcess => .done (failure DaemonError.notRunning.message)
  | _ => .ask (.send number (some signal.carrier)) fun given =>
    .done (answered signal number given)

/-- What is done about what the process number file shows. -/
def looked : Except DaemonError (Option Nat) → Host.Work Outcome
  | .error error => .done (failure error.message)
  | .ok none => .done (failure DaemonError.notRunning.message)
  | .ok (some number) =>
    if number ≤ greatestNumber then .ask (.send number none)
      (tested signal number)
    else .done (failure DaemonError.notRunning.message)

theorem sendTo_of_le {number : Nat} (possible : number ≤ greatestNumber) :
    (do
      match ← Daemon.sendTo number signal with
      | .error error => pure (failure error.message)
      | .ok () => pure (answered signal number (.ok ()))) =
      (.ask (.send number (some signal.carrier)) fun given =>
        .done (answered signal number given) :
        Host.Work Outcome) := by
  rw [Daemon.sendTo, if_pos possible]
  refine congrArg (Routine.ask _) (funext fun given => ?_)
  cases given <;> rfl

theorem askDaemon_eq (home : Option String) (settings : Settings) :
    askDaemon home settings signal =
      let file := PidFile.atPath (settings.pidFilePath home)
      .ask (.file (.read file.path)) fun given =>
        looked signal (file.interpret given) := by
  refine congrArg (Routine.ask _) (funext fun given => ?_)
  change Routine.bind
    (Routine.bind (.done ((PidFile.atPath (settings.pidFilePath home)).interpret
    given)) _) _ = _
  rcases (PidFile.atPath (settings.pidFilePath home)).interpret given with
    error | _ | number
  · rfl
  · rfl
  · change Routine.bind (Routine.bind (Daemon.isRunning number) _) _ = _
    unfold Daemon.isRunning
    by_cases possible : number ≤ greatestNumber
    · simp only [looked, if_pos possible]
      refine congrArg (Routine.ask _) (funext fun delivered => ?_)
      rcases delivered with (_ | _) | _
      · rfl
      · exact sendTo_of_le signal possible
      · exact sendTo_of_le signal possible
    · simp only [looked, if_neg possible]
      rfl

theorem perform_askDaemon (host : Host) (home : Option String)
    (settings : Settings) :
    let file := PidFile.atPath (settings.pidFilePath home)
    host.perform (askDaemon home settings signal) =
      host.perform
        (looked signal (file.interpret (host.disk.read file.path))) := by
  rw [askDaemon_eq]
  rfl

/-- Zero is taken for the number of a daemon, which gets the signal as far as
can be told. -/
theorem perform_askDaemon_of_zero {host : Host} {home : Option String}
    {settings : Settings}
    (shown : (PidFile.atPath (settings.pidFilePath home)).interpret
      (host.disk.read (settings.pidFilePath home)) = .ok (some 0)) :
    host.perform (askDaemon home settings signal) =
      (answered signal 0 (.ok ()),
        { host with processes := { host.processes with
        sent := host.processes.sent ++ [(0, signal.carrier)] } }) := by
  have asked := perform_askDaemon signal host home settings
  change _ = host.perform
    (looked signal ((PidFile.atPath (settings.pidFilePath home)).interpret
    (host.disk.read (settings.pidFilePath home)))) at asked
  rw [asked, shown, looked, if_pos (Nat.zero_le _)]
  simp [Host.perform, tested, Routine.complete, Host.answer, Processes.send,
    Processes.canReach]

theorem asked_of_tested {number : Nat} (possible : number ≤ greatestNumber)
    {given : Except Undelivered Unit}
    {exchanges : List (Exchange Host.Request.Answer)}
    {outcome : Outcome}
    (reaches : Reaches (tested signal number given) exchanges (.done outcome)) :
    Asked signal (.ok (some number)) (deliveries exchanges) outcome := by
  have onward {first : Except Undelivered Unit}
      (goesOn : tested signal number first =
        .ask (.send number (some signal.carrier)) fun given =>
          .done (answered signal number given))
      (reaches : Reaches (tested signal number first) exchanges
        (.done outcome)) :
      Asked signal (.ok (some number)) (deliveries exchanges) outcome := by
    rw [goesOn] at reaches
    obtain ⟨last, later, rfl, ending⟩ := Routine.reaches_ask_done_iff.1 reaches
    obtain ⟨rfl, rfl⟩ := Routine.reaches_done_iff.1 ending
    rcases last with undelivered | _
    · exact .inVain _
    · exact .delivered number _ rfl possible
  rcases given with (_ | _) | _
  · obtain ⟨rfl, rfl⟩ := Routine.reaches_done_iff.1 reaches
    exact .inVain _
  · exact onward rfl reaches
  · exact onward rfl reaches

theorem asked_of_looked {shown : Except DaemonError (Option Nat)}
    {exchanges : List (Exchange Host.Request.Answer)} {outcome : Outcome}
    (reaches : Reaches (looked signal shown) exchanges (.done outcome)) :
    Asked signal shown (deliveries exchanges) outcome := by
  have inVain {message : String}
      {exchanges : List (Exchange Host.Request.Answer)}
      (reaches : Reaches (.done (failure message)) exchanges (.done outcome)) :
      Asked signal shown (deliveries exchanges) outcome := by
    obtain ⟨rfl, rfl⟩ := Routine.reaches_done_iff.1 reaches
    exact .inVain message
  rcases shown with error | _ | number
  · exact inVain reaches
  · exact inVain reaches
  · by_cases possible : number ≤ greatestNumber
    · simp only [looked, if_pos possible] at reaches
      obtain ⟨given, later, rfl, onward⟩ :=
        Routine.reaches_ask_done_iff.1 reaches
      change Asked signal (.ok (some number)) (deliveries later) outcome
      exact asked_of_tested signal possible onward
    · simp only [looked, if_neg possible] at reaches
      exact inVain reaches

end Asking

theorem Asked.positive {signal : ControlSignal}
    {shown : Except DaemonError (Option Nat)}
    {delivered : List (Nat × Signal)} {outcome : Outcome}
    (asked : Asked signal shown delivered outcome)
    (nonzero : shown ≠ .ok (some 0)) :
    ∀ delivery ∈ delivered, 0 < delivery.1 := by
  cases asked with
  | inVain message => simp
  | delivered number lines recorded possible =>
    intro delivery member
    obtain rfl := List.mem_singleton.1 member
    apply Nat.pos_of_ne_zero
    rintro rfl
    exact nonzero recorded

end CommandLine

open CommandLine (askDaemon Asked deliveries) in
/-- Whatever the process number file holds and however the host answers, a
daemon that is asked gets one signal, sent to the number in the file, or asking
it fails and nobody gets any; and unless the number is zero it is that of a
single process. A number above zero of no process that runs is no hindrance to
acquiring the file, which then shows the own number. -/
theorem PidFile.number_names_process (home : Option String)
    (settings : Settings) :
    (∀ signal exchanges outcome,
      Routine.Reaches (askDaemon home settings signal) exchanges
        (.done outcome) →
      let file := PidFile.atPath (settings.pidFilePath home)
      ∃ given, exchanges.head? = some ⟨.file (.read file.path), given⟩ ∧
        Asked signal (file.interpret given) (deliveries exchanges) outcome ∧
        (file.interpret given ≠ .ok (some 0) →
          ∀ delivery ∈ deliveries exchanges, 0 < delivery.1)) ∧
      ∀ (host : Host) (file : PidFile) (name : String) (number : Nat),
        host.disk.Sound → Files.lastName? file.path = some name →
        file.interpret (host.disk.read file.path) = .ok (some number) →
        number ≠ 0 → number ∉ host.processes.running →
        ∃ after, host.perform file.acquire =
            (.ok { file with isOwned := true }, { host with disk := after }) ∧
          after.read file.path =
            .ok (Bytes.ofText (toString host.processes.own)) := by
  constructor
  · intro signal exchanges outcome reaches file
    rw [CommandLine.askDaemon_eq] at reaches
    obtain ⟨given, later, rfl, onward⟩ := Routine.reaches_ask_done_iff.1 reaches
    have asked := CommandLine.asked_of_looked signal onward
    exact ⟨given, rfl, asked, asked.positive⟩
  · intro host file name number sound named shown positive stale
    exact exists_perform_acquire_of_stale sound named shown positive stale

section Alone

open CommandLine (askDaemon failure)
open Daemon (duelPath)
open Store (lone)

/-- A machine where the process 7 acts and the process 9 runs, with a file that
holds some text. -/
def noting (text : String) : Host :=
  ⟨lone "autoswitch.pid" (Bytes.ofText text), ⟨7, [7, 9], []⟩⟩

theorem sound_lone (bytes : Bytes) : (lone "autoswitch.pid" bytes).Sound := by
  have sound : (Files.Disk.blank ["srv"]).Sound := Files.Disk.sound_blank _
  have emptied := (sound.showsFile_truncate Daemon.truncate_blank).1
  have filled : (lone "autoswitch.pid" []).write 0 bytes =
      lone "autoswitch.pid" bytes := by
    simp [Files.Disk.write, lone, Files.Disk.content]
  exact filled ▸ emptied.write 0 bytes

theorem interpret_noting {text : String} {number : Nat}
    (written : Daemon.processNumber text = .ok number) :
    (PidFile.atPath duelPath).interpret ((noting text).disk.read duelPath) =
      .ok (some number) := by
  rw [noting, Daemon.read_lone, PidFile.interpret]
  simp only [Bytes.text?_ofText, written]

theorem lastName?_duelPath :
    Files.lastName? duelPath = some "autoswitch.pid" := by
  rw [Files.lastName?, duelPath, Daemon.isPlain_pidFileName.pathParts_join,
    Files.pathParts_empty]
  rfl

theorem pidFilePath_none (settings : Settings) :
    settings.pidFilePath none = settings.pidFile := rfl

/-- A daemon whose number is in the file gets the signal, and a number that
nobody has any more is replaced. -/
theorem PidFile.number_names_process_of_nine :
    let settings : Settings := { Settings.usual with pidFile := duelPath }
    let file := PidFile.atPath duelPath
    let exchanges : List (Routine.Exchange Host.Request.Answer) := [
      ⟨.file (.read duelPath), .ok (Bytes.ofText "9")⟩, ⟨.send 9 none, .ok ()⟩,
      ⟨.send 9 (some .terminate), .ok ()⟩]
    Routine.Reaches (askDaemon none settings .stop) exchanges
        (.done ⟨["Stop requested (PID 9)"], .done⟩) ∧
      file.interpret (.ok (Bytes.ofText "9")) ≠ .ok (some 0) ∧
      (∀ delivery ∈ CommandLine.deliveries exchanges, 0 < delivery.1) ∧
      ∃ after, (noting "8").perform file.acquire =
          (.ok { file with isOwned := true },
            { noting "8" with disk := after }) ∧
        after.read duelPath = .ok (Bytes.ofText (toString 7)) := by
  intro settings file exchanges
  have located : settings.pidFilePath none = duelPath :=
    pidFilePath_none settings
  have nine : file.interpret (.ok (Bytes.ofText "9")) = .ok (some 9) := rfl
  have eight : file.interpret ((noting "8").disk.read duelPath) =
      .ok (some 8) :=
    interpret_noting rfl
  have reaches : Routine.Reaches (askDaemon none settings .stop) exchanges
      (.done ⟨["Stop requested (PID 9)"], .done⟩) := by
    rw [CommandLine.askDaemon_eq, located]
    exact .next _ (nine ▸ .next _ (.next _ (.here _)))
  have nonzero : file.interpret (.ok (Bytes.ofText "9")) ≠ .ok (some 0) := by
    rw [nine]
    decide
  obtain ⟨asked, replaced⟩ := PidFile.number_names_process none settings
  rw [located] at asked
  obtain ⟨given, first, -, positive⟩ := asked .stop exchanges _ reaches
  cases first
  exact ⟨reaches, nonzero, positive nonzero,
    replaced (noting "8") file "autoswitch.pid" 8
    (sound_lone _) lastName?_duelPath eight (by decide) (by decide)⟩

/-- With zero in the file the signal goes to the group of the sender, and the
file cannot be acquired although there is no process zero. -/
theorem PidFile.zero_names_group :
    let settings : Settings := { Settings.usual with pidFile := duelPath }
    let file := PidFile.atPath duelPath
    let host := noting "0"
    host.disk.Sound ∧ file.interpret (host.disk.read duelPath) = .ok (some 0) ∧
      0 ∉ host.processes.running ∧ 0 ≠ host.processes.own ∧
      (host.perform (askDaemon none settings .stop)).1.ending = .done ∧
      (host.perform (askDaemon none settings .stop)).2.processes.sent =
        [(0, .terminate)] ∧
      (host.perform file.acquire).1 = .error (.alreadyRunning duelPath 0) := by
  intro settings file host
  have located : settings.pidFilePath none = duelPath :=
    pidFilePath_none settings
  have zero : file.interpret (host.disk.read duelPath) = .ok (some 0) :=
    interpret_noting rfl
  have asked := CommandLine.perform_askDaemon_of_zero .stop (located ▸ zero)
  have refused := PidFile.perform_acquire_of_number zero
  rw [if_pos (by decide)] at refused
  refine ⟨sound_lone _, zero, by decide, by decide, ?_, ?_, ?_⟩
  · rw [asked]
    rfl
  · rw [asked]
    rfl
  · rw [refused]
    rfl

end Alone

end Switchyard
