import Switchyard.Proofs.Documents
import Switchyard.Proofs.Records
import Switchyard.Store.Folder

/-!
# Two stores, one behaviour

Whoever calls a store in a folder gets the replies that a store in memory gives,
whatever is stored and in whatever order the calls come. The policy that is read
is the last one that was written, the status is the last one that was recorded,
and neither has to do with the other.
-/

namespace Switchyard.Store

open Files (Disk IsPlain Sight Place placeOf join)

/-- What may be asked of a store. -/
inductive Call where
  | policy
  | stored
  | update (policy : Policy)
  | record (status : StatusRecord)
  | status
deriving DecidableEq

/-- What a store replies. -/
inductive Reply where
  | policy (found : Except StoreError Policy)
  | done (result : Except StoreError Unit)
  | status (found : Except StoreError (Option StatusRecord))

def Memory.serve (call : Call) (store : Memory) : Reply × Memory :=
  match call with
  | .policy => (.policy (.ok store.policy), store)
  | .stored => (.policy (.ok store.stored), store)
  | .update policy => (.done (.ok ()), store.update policy)
  | .record status => (.done (.ok ()), store.record status)
  | .status => (.status (.ok store.status?), store)

def Folder.work (folder : Folder) : Call → Files.Work Reply
  | .policy => do pure (.policy (← folder.policy))
  | .stored => do pure (.policy (← folder.stored))
  | .update policy => do pure (.done (← folder.update policy))
  | .record status => do pure (.done (← folder.record status))
  | .status => do pure (.status (← folder.status?))

def Folder.serve (folder : Folder) (call : Call) (disk : Disk) : Reply × Disk :=
  disk.perform (folder.work call)

/-- What a store replies to several calls, and how it is left. -/
def serveAll {State : Type} (serve : Call → State → Reply × State) :
    List Call → State → List Reply × State
  | [], state => ([], state)
  | call :: calls, state =>
    let (reply, next) := serve call state
    let (replies, last) := serveAll serve calls next
    (reply :: replies, last)

section Serving

variable (folder : Folder) (disk : Disk)

theorem Folder.serve_policy :
    folder.serve .policy disk =
      (.policy ((interpret folder.policyPath Policy.ofJson? .initial
        (disk.read folder.policyPath)).map Policy.clamped), disk) := rfl

theorem Folder.serve_stored :
    folder.serve .stored disk =
      (.policy (interpret folder.policyPath Policy.ofJson? .initial
        (disk.read folder.policyPath)), disk) := rfl

theorem Folder.serve_status :
    folder.serve .status disk =
      (.status
        ((interpret folder.statusPath (Json.orNull? StatusRecord.ofJson?) none
        (disk.read folder.statusPath)).map fun status =>
          status.bind StatusRecord.visible?),
        disk) := rfl

theorem Folder.serve_update (policy : Policy) :
    folder.serve (.update policy) disk =
      (.done (disk.perform (writeDocument folder.policyPath policy.toJson)).1,
        (disk.perform (writeDocument folder.policyPath policy.toJson)).2) :=
  Routine.complete_bind _ _ _ _

theorem Folder.serve_record (status : StatusRecord) :
    folder.serve (.record status) disk =
      (.done (disk.perform (writeDocument folder.statusPath status.toJson)).1,
        (disk.perform (writeDocument folder.statusPath status.toJson)).2) :=
  Routine.complete_bind _ _ _ _

end Serving

theorem isPlain_policyName : IsPlain "autoswitch.json" :=
  ⟨by decide, by decide, by decide⟩

theorem isPlain_statusName : IsPlain "autoswitch-status.json" :=
  ⟨by decide, by decide, by decide⟩

namespace Folder

def home (folder : Folder) (disk : Disk) : Place :=
  placeOf disk.working folder.path

/-- Whether the folder is there and nothing is in it. -/
structure IsEmpty (folder : Folder) (disk : Disk) : Prop where
  opened : disk.IsOpen (folder.home disk)
  nothing : ∀ name, disk.sight? (folder.home disk ++ [name]) = none

/-- Whether the files in a folder say what a store in memory holds, and no draft
is left. -/
structure Mirrors (folder : Folder) (disk : Disk) (store : Memory) : Prop where
  sound : disk.Sound
  opened : disk.IsOpen (folder.home disk)
  policy : disk.sight? (folder.home disk ++ ["autoswitch.json"]) = none ∧
    store.stored = .initial ∨
    disk.sight? (folder.home disk ++ ["autoswitch.json"]) =
      some (.file (Bytes.ofText store.stored.toJson.pretty))
  status : disk.sight? (folder.home disk ++ ["autoswitch-status.json"]) =
    store.history.getLast?.map fun record =>
      .file (Bytes.ofText record.toJson.pretty)
  policyDraft : disk.sight? (folder.home disk ++ ["autoswitch.json.tmp"]) = none
  statusDraft :
    disk.sight? (folder.home disk ++ ["autoswitch-status.json.tmp"]) = none

variable {folder : Folder} {disk : Disk} {store : Memory}

theorem home_eq {after : Disk} (same : after.working = disk.working) :
    folder.home after = folder.home disk := by
  rw [home, same, home]

theorem IsEmpty.mirrors (empty : folder.IsEmpty disk) (sound : disk.Sound) :
    folder.Mirrors disk (.ofPolicy .initial) where
  sound := sound
  opened := empty.opened
  policy := .inl ⟨empty.nothing _, rfl⟩
  status := empty.nothing _
  policyDraft := empty.nothing _
  statusDraft := empty.nothing _

section Reading

theorem Mirrors.interpret_policy (mirrors : folder.Mirrors disk store) :
    interpret folder.policyPath Policy.ofJson? .initial
      (disk.read folder.policyPath) = .ok store.stored := by
  have leads := isPlain_policyName.placeOf_join disk.working folder.path
  rw [policyPath, Files.Disk.read_of_isOpen leads mirrors.opened]
  rcases mirrors.policy with ⟨absent, initial⟩ | written
  · rw [home] at absent
    rw [absent, initial]
    rfl
  · rw [home] at written
    rw [written]
    exact interpret_pretty (Policy.isReadable_toJson _)
      (Policy.ofJson?_toJson _)

/-- What is read of a status file that says some status. -/
theorem interpret_written_status {record : StatusRecord}
    (opened : disk.IsOpen (folder.home disk))
    (written : disk.sight? (folder.home disk ++ ["autoswitch-status.json"]) =
      some (.file (Bytes.ofText record.toJson.pretty))) :
    interpret folder.statusPath (Json.orNull? StatusRecord.ofJson?) none
      (disk.read folder.statusPath) = .ok (some record) := by
  have leads := isPlain_statusName.placeOf_join disk.working folder.path
  rw [home] at written
  rw [statusPath, Files.Disk.read_of_isOpen leads opened, written]
  refine interpret_pretty (StatusRecord.isReadable_toJson _) ?_
  change (StatusRecord.ofJson? record.toJson).map some = some (some record)
  rw [StatusRecord.ofJson?_toJson]
  rfl

theorem Mirrors.interpret_status (mirrors : folder.Mirrors disk store) :
    interpret folder.statusPath (Json.orNull? StatusRecord.ofJson?) none
      (disk.read folder.statusPath) = .ok store.history.getLast? := by
  have status := mirrors.status
  cases last : store.history.getLast? with
  | none =>
    have leads := isPlain_statusName.placeOf_join disk.working folder.path
    rw [last, Option.map_none, home] at status
    rw [statusPath, Files.Disk.read_of_isOpen leads mirrors.opened, status]
    rfl
  | some record =>
    rw [last] at status
    exact interpret_written_status mirrors.opened status

end Reading

section Writing

theorem Mirrors.update (mirrors : folder.Mirrors disk store) (policy : Policy) :
    (folder.serve (.update policy) disk).1 = .done (.ok ()) ∧
      folder.Mirrors (folder.serve (.update policy) disk).2
        (store.update policy) := by
  have writing :=
    writing_writeDocument mirrors.sound isPlain_policyName
      folder.path policy.toJson
  have free : disk.sight? (folder.home disk ++ ["autoswitch.json"]) ≠
      some .folder := by
    rcases mirrors.policy with ⟨absent, -⟩ | written
    · simp [absent]
    · simp [written]
  have done := writing.result_eq_ok mirrors.opened free mirrors.policyDraft
  obtain ⟨opened, written, draft⟩ := writing.done done
  rw [serve_update, policyPath]
  refine ⟨congrArg Reply.done done, ?_⟩
  refine ⟨writing.sound, ?_, ?_, ?_, ?_, ?_⟩
  all_goals rw [home_eq writing.working]
  · exact opened
  · exact .inr written
  · exact (writing.sibling (by decide) (by decide)).trans mirrors.status
  · exact draft
  · exact (writing.sibling (by decide) (by decide)).trans mirrors.statusDraft

theorem Mirrors.record (mirrors : folder.Mirrors disk store)
    (status : StatusRecord) :
    (folder.serve (.record status) disk).1 = .done (.ok ()) ∧
      folder.Mirrors (folder.serve (.record status) disk).2
        (store.record status) := by
  have writing :=
    writing_writeDocument mirrors.sound isPlain_statusName
      folder.path status.toJson
  have free : disk.sight? (folder.home disk ++ ["autoswitch-status.json"]) ≠
      some .folder := by
    rw [mirrors.status]
    cases store.history.getLast? with
    | none => simp
    | some record => simp
  have done := writing.result_eq_ok mirrors.opened free mirrors.statusDraft
  obtain ⟨opened, written, draft⟩ := writing.done done
  rw [serve_record, statusPath]
  refine ⟨congrArg Reply.done done, ?_⟩
  refine ⟨writing.sound, ?_, ?_, ?_, ?_, ?_⟩
  all_goals rw [home_eq writing.working]
  · exact opened
  · have same :
        (disk.perform (writeDocument (join folder.path "autoswitch-status.json")
        status.toJson)).2.sight? (folder.home disk ++ ["autoswitch.json"]) =
          disk.sight? (folder.home disk ++ ["autoswitch.json"]) :=
      writing.sibling (by decide) (by decide)
    exact mirrors.policy.imp (fun former => ⟨same.trans former.1, former.2⟩)
      same.trans
  · rw [Memory.record, List.getLast?_concat]
    exact written
  · exact (writing.sibling (by decide) (by decide)).trans mirrors.policyDraft
  · exact draft

end Writing

/-- A folder that mirrors a store in memory gives the same reply and goes on
mirroring it. -/
theorem Mirrors.serve (mirrors : folder.Mirrors disk store) (call : Call) :
    (folder.serve call disk).1 = (store.serve call).1 ∧
      folder.Mirrors (folder.serve call disk).2 (store.serve call).2 := by
  cases call with
  | policy =>
    rw [serve_policy, mirrors.interpret_policy]
    exact ⟨rfl, mirrors⟩
  | stored =>
    rw [serve_stored, mirrors.interpret_policy]
    exact ⟨rfl, mirrors⟩
  | update policy => exact mirrors.update policy
  | record status => exact mirrors.record status
  | status =>
    rw [serve_status, mirrors.interpret_status]
    exact ⟨rfl, mirrors⟩

theorem Mirrors.serveAll (mirrors : folder.Mirrors disk store)
    (calls : List Call) :
    (serveAll folder.serve calls disk).1 =
      (serveAll Memory.serve calls store).1 ∧
      folder.Mirrors (serveAll folder.serve calls disk).2
        (serveAll Memory.serve calls store).2 := by
  induction calls generalizing disk store with
  | nil => exact ⟨rfl, mirrors⟩
  | cons call calls callsFact =>
    obtain ⟨reply, next⟩ := mirrors.serve call
    obtain ⟨replies, last⟩ := callsFact next
    exact ⟨congrArg₂ List.cons reply replies, last⟩

end Folder

namespace Call

def isAboutPolicy : Call → Bool
  | .policy | .stored | .update _ => true
  | .record _ | .status => false

def update? : Call → Option Policy
  | .update written => some written
  | _ => none

def record? : Call → Option StatusRecord
  | .record recorded => some recorded
  | _ => none

end Call

/-- The replies to the calls of some kind among all calls. -/
def repliesTo (isMeant : Call → Bool) (calls : List Call)
    (replies : List Reply) : List Reply :=
  ((calls.zip replies).filter fun told => isMeant told.1).map Prod.snd

/-- Calls of one kind are answered alike with and without the others, if what
they depend on is kept by the others. -/
theorem repliesTo_serveAll {State : Type} {serve : Call → State → Reply × State}
    {isMeant : Call → Bool} {same : State → State → Prop}
    (meant : ∀ call state other, isMeant call = true → same state other →
      (serve call state).1 = (serve call other).1 ∧
        same (serve call state).2 (serve call other).2)
    (apart : ∀ call state other, isMeant call = false → same state other →
      same (serve call state).2 other)
    (calls : List Call) {state other : State} (alike : same state other) :
    repliesTo isMeant calls (serveAll serve calls state).1 =
      (serveAll serve (calls.filter isMeant) other).1 := by
  induction calls generalizing state other with
  | nil => rfl
  | cons call calls callsFact =>
    cases kind : isMeant call with
    | true =>
      obtain ⟨reply, next⟩ := meant call state other kind alike
      have onward := callsFact next
      rw [List.filter_cons_of_pos kind]
      simp only [serveAll, repliesTo, List.zip_cons_cons, List.filter_cons,
        kind, if_true, List.map_cons]
      exact congrArg₂ List.cons reply onward
    | false =>
      have onward := callsFact (apart call state other kind alike)
      rw [List.filter_cons_of_neg (by simp [kind])]
      simp only [serveAll, repliesTo, List.zip_cons_cons, List.filter_cons,
        kind, Bool.false_eq_true, if_false]
      exact onward

namespace Memory

variable (store : Memory) (calls : List Call)

theorem stored_serveAll :
    (serveAll serve calls store).2.stored =
      (calls.filterMap Call.update?).getLast?.getD store.stored := by
  induction calls generalizing store with
  | nil => rfl
  | cons call calls callsFact =>
    rw [serveAll, callsFact]
    cases call with
    | update written =>
      have added : (Call.update written :: calls).filterMap Call.update? =
          written :: calls.filterMap Call.update? := rfl
      rw [added, List.getLast?_cons]
      cases (calls.filterMap Call.update?).getLast? <;> rfl
    | _ => rfl

theorem history_serveAll :
    (serveAll serve calls store).2.history =
      store.history ++ calls.filterMap Call.record? := by
  induction calls generalizing store with
  | nil => exact (List.append_nil _).symm
  | cons call calls callsFact =>
    rw [serveAll, callsFact]
    cases call with
    | record recorded =>
      have added : (Call.record recorded :: calls).filterMap Call.record? =
          recorded :: calls.filterMap Call.record? := rfl
      rw [added, ← List.singleton_append, ← List.append_assoc]
      rfl
    | _ => rfl

end Memory

section Apart

variable {store other : Memory} (calls : List Call)

theorem Memory.repliesTo_policy (same : store.stored = other.stored) :
    repliesTo Call.isAboutPolicy calls (serveAll Memory.serve calls store).1 =
      (serveAll Memory.serve (calls.filter Call.isAboutPolicy) other).1 := by
  let alike (store other : Memory) : Prop := store.stored = other.stored
  have meant (call : Call) (store other : Memory)
      (kind : call.isAboutPolicy = true) (same : alike store other) :
        (store.serve call).1 = (other.serve call).1 ∧
        alike (store.serve call).2 (other.serve call).2 := by
    cases call with
    | policy =>
      exact ⟨congrArg (fun stored => Reply.policy (.ok (Policy.clamped stored)))
        same, same⟩
    | stored =>
      exact ⟨congrArg (fun stored => Reply.policy (.ok stored)) same, same⟩
    | update written => exact ⟨rfl, rfl⟩
    | record recorded => cases kind
    | status => cases kind
  have apart (call : Call) (store other : Memory)
      (kind : call.isAboutPolicy = false) (same : alike store other) :
        alike (store.serve call).2 other := by
    cases call with
    | record recorded => exact same
    | status => exact same
    | policy | stored | update => cases kind
  exact repliesTo_serveAll meant apart calls same

theorem Memory.repliesTo_status (same : store.history = other.history) :
    repliesTo (fun call => !call.isAboutPolicy) calls
      (serveAll Memory.serve calls store).1 =
        (serveAll Memory.serve (calls.filter fun call => !call.isAboutPolicy)
          other).1 := by
  let alike (store other : Memory) : Prop := store.history = other.history
  have meant (call : Call) (store other : Memory)
      (kind : (!call.isAboutPolicy) = true) (same : alike store other) :
        (store.serve call).1 = (other.serve call).1 ∧
        alike (store.serve call).2 (other.serve call).2 := by
    cases call with
    | record recorded => exact ⟨rfl, congrArg (· ++ [recorded]) same⟩
    | status =>
      have shown : store.status? = other.status? := by
        rw [Memory.status?, same, Memory.status?]
      exact ⟨congrArg (fun found => Reply.status (.ok found)) shown, same⟩
    | policy | stored | update => cases kind
  have apart (call : Call) (store other : Memory)
      (kind : (!call.isAboutPolicy) = false) (same : alike store other) :
        alike (store.serve call).2 other := by
    cases call with
    | policy | stored | update => exact same
    | record recorded => cases kind
    | status => cases kind
  exact repliesTo_serveAll meant apart calls same

end Apart

section Folder

variable {folder : Folder} {disk : Disk}

/-- A store in an empty folder serves every sequence of calls as a new store in
memory does. Its policy is the one that was written last, and calls about the
policy and calls about the status are answered as if there were no others. -/
theorem Folder.serves_as_memory (sound : disk.Sound)
    (empty : folder.IsEmpty disk) (calls : List Call) :
    let replies := (serveAll folder.serve calls disk).1
    let after := (serveAll folder.serve calls disk).2
    let latest := (calls.filterMap Call.update?).getLast?.getD .initial
    replies = (serveAll Memory.serve calls (.ofPolicy .initial)).1 ∧
      (folder.serve .stored after).1 = .policy (.ok latest) ∧
      (folder.serve .policy after).1 = .policy (.ok latest.clamped) ∧
      (folder.serve .status after).1 =
        .status
          (.ok ((calls.filterMap Call.record?).getLast?.bind
            StatusRecord.visible?)) ∧
      repliesTo Call.isAboutPolicy calls replies =
        (serveAll folder.serve (calls.filter Call.isAboutPolicy) disk).1 ∧
      repliesTo (fun call => !call.isAboutPolicy) calls replies =
        (serveAll folder.serve (calls.filter fun call => !call.isAboutPolicy)
          disk).1 := by
  intro replies after latest
  have mirrors := empty.mirrors sound
  have alike (calls : List Call) := (mirrors.serveAll calls).1
  have mirrorsAfter := (mirrors.serveAll calls).2
  have stored :
      (serveAll Memory.serve calls (.ofPolicy .initial)).2.stored = latest :=
    Memory.stored_serveAll _ calls
  have history : (serveAll Memory.serve calls (.ofPolicy .initial)).2.history =
      calls.filterMap Call.record? :=
    Memory.history_serveAll _ calls
  refine ⟨alike calls, ?_, ?_, ?_, ?_, ?_⟩
  · rw [(mirrorsAfter.serve .stored).1, Memory.serve, stored]
  · rw [(mirrorsAfter.serve .policy).1, Memory.serve, Memory.policy, stored]
  · rw [(mirrorsAfter.serve .status).1, Memory.serve, Memory.status?, history]
  · rw [show replies = _ from alike calls, alike,
      Memory.repliesTo_policy calls rfl]
  · rw [show replies = _ from alike calls, alike,
      Memory.repliesTo_status calls rfl]

/-- On a disk without files, the working folder is an empty one. -/
theorem Folder.isEmpty_blank :
    (⟨""⟩ : Folder).IsEmpty (Disk.blank ["srv"]) := by
  have home : (⟨""⟩ : Folder).home (Disk.blank ["srv"]) = ["srv"] :=
    Files.placeOf_empty _
  have made : Disk.makeAlong [] ["srv"] ⟨[], [], ["srv"]⟩ =
    (.ok (), Disk.blank ["srv"]) := rfl
  refine ⟨?_, fun name => ?_⟩
  all_goals rw [home]
  · intro front within
    by_cases top : front = []
    · rw [top, Files.Disk.sight?_nil]
    · exact Files.Disk.sight?_eq_folder_iff.2
        (Files.Disk.isFolder_of_makeAlong made within top)
  · rfl

/-- A policy whose texts hold quotes, control characters and characters beyond
the basic plane comes back, and so does the last of two statuses. A period that
is too short is stored as it was given and raised in what the loop is shown. -/
theorem Folder.new_folder_serves_as_memory :
    let folder : Folder := ⟨""⟩
    let disk := Disk.blank ["srv"]
    let policy : Policy :=
      { Policy.initial with
        targetGroup := "a \"b\" \\ \x01 \u2028 🚦"
        candidates := NameSet.ofList ["", "🐉", "ä", "\t"]
        probeIntervalSeconds := 18446744073709551615
        cooldownSeconds := 0 }
    let hasty : Policy := { policy with probeIntervalSeconds := 14 }
    let calls : List Call :=
      [.status, .update policy, .record ⟨-1, " "⟩, .record ⟨7, "a\nb"⟩]
    let after := (serveAll folder.serve calls disk).2
    let later := (serveAll folder.serve (calls ++ [.update hasty]) disk).2
    disk.Sound ∧ folder.IsEmpty disk ∧
      (folder.serve .stored after).1 = .policy (.ok policy) ∧
      (folder.serve .policy after).1 =
        .policy (.ok { policy with cooldownSeconds := 5 }) ∧
      (folder.serve .status after).1 = .status (.ok (some ⟨7, "a\nb"⟩)) ∧
      (folder.serve .stored later).1 = .policy (.ok hasty) ∧
      (folder.serve .policy later).1 =
        .policy (.ok { policy with
          probeIntervalSeconds := 15, cooldownSeconds := 5 }) := by
  intro folder disk policy hasty calls after later
  have sound : disk.Sound := Files.Disk.sound_blank _
  obtain ⟨-, stored, shown, status, -⟩ :=
    Folder.serves_as_memory sound Folder.isEmpty_blank calls
  obtain ⟨-, storedLater, shownLater, -⟩ :=
    Folder.serves_as_memory sound Folder.isEmpty_blank
      (calls ++ [.update hasty])
  exact ⟨sound, Folder.isEmpty_blank, stored, shown, status,
    storedLater, shownLater⟩

end Folder

end Switchyard.Store
