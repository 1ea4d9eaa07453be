import Switchyard.Proofs.Mishaps

/-!
# Several writers of one file

Nothing keeps two calls from writing the same file at the same time, and both
use the same draft. As long as nobody opens, fills or names the draft while
another call has opened it and not filled it yet, whoever reads the file finds
what it held at first or the whole text of one of the values, and a call that
fails has not changed it. Without that a call can name a draft that another one
has just emptied, and can write over a file that already has its name.
-/

namespace Switchyard.Files

open Routine (Exchange)

/-- Whether bytes were written to a file. -/
def fills : Exchange Request.Answer → Bool
  | ⟨.write _ _, .ok ()⟩ => true
  | _ => false

/-- Whether a draft was opened, filled or given another name. -/
def touches (exchange : Exchange Request.Answer) : Bool :=
  opens exchange || fills exchange || names exchange

/-- A step that somebody took: what was asked and answered. -/
abbrev Deed := Nat × Exchange Request.Answer

/-- Who has opened the draft and has not asked for anything since. -/
def openerAfter (opener : Option Nat) (deed : Deed) : Option Nat :=
  if opens deed.2 then some deed.1 else if opener = some deed.1 then none
  else opener

/-- Whether nobody touches the draft while it is open for somebody else. -/
def isUninterrupted : Option Nat → List Deed → Bool
  | _, [] => true
  | opener, deed :: later =>
    (!touches deed.2 || opener.all (· == deed.1)) &&
      isUninterrupted (openerAfter opener deed) later

section Log

variable {opener : Option Nat} {who : Nat} {log : List Deed}

theorem isUninterrupted_append (opener : Option Nat)
    (former latter : List Deed) :
    isUninterrupted opener (former ++ latter) =
      (isUninterrupted opener former &&
        isUninterrupted (former.foldl openerAfter opener) latter) := by
  induction former generalizing opener with
  | nil => rfl
  | cons deed former formerFact =>
    rw [List.cons_append, isUninterrupted, isUninterrupted, formerFact,
      Bool.and_assoc]
    rfl

/-- Somebody who may have the draft open goes on without interrupting anyone,
and nobody else has it open afterwards. -/
theorem isUninterrupted_own (own : opener.all (· == who) = true)
    (alone : ∀ deed ∈ log, deed.1 = who) :
    isUninterrupted opener log = true ∧
      (log.foldl openerAfter opener).all (· == who) = true := by
  induction log generalizing opener with
  | nil => exact ⟨rfl, own⟩
  | cons deed later laterFact =>
    have here := alone deed List.mem_cons_self
    have onward : (openerAfter opener deed).all (· == who) = true := by
      unfold openerAfter
      split
      · simp [here]
      · split
        · rfl
        · exact own
    obtain ⟨rest, left⟩ := laterFact onward fun deed among =>
      alone deed (List.mem_cons_of_mem _ among)
    rw [isUninterrupted, rest, here, own, Bool.or_true]
    exact ⟨rfl, left⟩

/-- A draft is not open any longer once its opener has asked for something
else. -/
theorem openerAfter_eq_none {deed : Deed}
    (own : opener.all (· == deed.1) = true) (unopened : opens deed.2 = false) :
    openerAfter opener deed = none := by
  rw [openerAfter, unopened]
  cases opener with
  | none => rfl
  | some who => simpa using own

end Log

end Switchyard.Files

namespace Switchyard.Store

open Files (Deed Disk Fault IsPlain Place Work isUninterrupted join
  openerAfter placeOf told? touches turn undergo)
open Routine (Exchange)

/-- Several pieces of work on one disk, and what was done so far. -/
structure Rivals where
  disk : Disk
  works : List (Work (Except StoreError Unit))
  log : List Deed

namespace Rivals

/-- Writers who are about to write values under one path. -/
def start (path : String) (values : List Json) (disk : Disk) : Rivals :=
  ⟨disk, values.map (writeDocument path), []⟩

/-- One of the writers goes one step further. -/
def step (rivals : Rivals) (who : Nat) : Rivals :=
  match rivals.works[who]? with
  | none => rivals
  | some work =>
    let state := turn .serves (work, rivals.disk)
    let shown := told? .serves (work, rivals.disk)
    ⟨state.2, rivals.works.set who state.1,
      rivals.log ++ (shown.map (who, ·)).toList⟩

/-- The writers go on in some order. -/
def run (schedule : List Nat) (rivals : Rivals) : Rivals :=
  schedule.foldl step rivals

theorem run_cons (who : Nat) (later : List Nat) (rivals : Rivals) :
    rivals.run (who :: later) = (rivals.step who).run later := rfl

theorem run_append (former latter : List Nat) (rivals : Rivals) :
    rivals.run (former ++ latter) = (rivals.run former).run latter :=
  List.foldl_append

theorem exists_log_step (rivals : Rivals) (who : Nat) :
    ∃ shown : List Deed, (rivals.step who).log = rivals.log ++ shown ∧
      ∀ deed ∈ shown, deed.1 = who := by
  unfold step
  split
  · exact ⟨[], by simp, nofun⟩
  · rename_i work _
    refine ⟨_, rfl, fun deed among => ?_⟩
    cases shown : told? .serves (work, rivals.disk) with
    | none => rw [shown] at among; cases among
    | some exchange =>
      rw [shown] at among
      rw [List.mem_singleton.1 among]

theorem exists_log_run (rivals : Rivals) (schedule : List Nat) :
    ∃ shown : List Deed, (rivals.run schedule).log = rivals.log ++ shown ∧
      ∀ deed ∈ shown, deed.1 ∈ schedule := by
  induction schedule generalizing rivals with
  | nil => exact ⟨[], by simp [run], nofun⟩
  | cons who later laterFact =>
    obtain ⟨first, firstLog, firstOwn⟩ := rivals.exists_log_step who
    obtain ⟨rest, restLog, restOwn⟩ := laterFact (rivals.step who)
    refine ⟨first ++ rest, ?_, fun deed among => ?_⟩
    · rw [run_cons, restLog, firstLog, List.append_assoc]
    · rcases List.mem_append.1 among with among | among
      · exact firstOwn deed among ▸ List.mem_cons_self
      · exact List.mem_cons_of_mem _ (restOwn deed among)

/-- Whoever is done stays done. -/
theorem works_step_of_done {rivals : Rivals} {who : Nat}
    {result : Except StoreError Unit}
    (done : rivals.works[who]? = some (.done result)) (next : Nat) :
    (rivals.step next).works[who]? = some (.done result) := by
  unfold step
  split
  · exact done
  · rename_i work found
    by_cases same : next = who
    · subst same
      obtain rfl := Option.some.inj (found.symm.trans done)
      have within := (List.getElem?_eq_some_iff.1 found).1
      simp [within, turn]
    · simpa [List.getElem?_set_ne same] using done

theorem works_run_of_done {rivals : Rivals} {who : Nat}
    {result : Except StoreError Unit}
    (done : rivals.works[who]? = some (.done result)) (schedule : List Nat) :
    (rivals.run schedule).works[who]? = some (.done result) := by
  induction schedule generalizing rivals with
  | nil => exact done
  | cons next later laterFact => exact laterFact (works_step_of_done done next)

end Rivals

/-! ## What rivals keep -/

/-- What a draft holds that may be given the name of the file. -/
def IsSettled (values : List Json) (disk : Disk) (place : Place) : Prop :=
  disk.sight? place = none ∨
    ∃ value ∈ values,
      disk.sight? place = some (.file (Bytes.ofText value.pretty))

/-- What is known of a draft that somebody has opened and not filled yet. -/
structure IsBlankDraft (home : Place) (name : String) (number : Nat)
    (disk : Disk) : Prop where
  content : disk.content number = []
  apart : disk.entryAt? (home ++ [name]) ≠ some (.file number)
  entry : ∀ entry, disk.entryAt? (home ++ [name ++ ".tmp"]) = some entry →
    entry = .file number

/-- Where several writers have got to who began on some disk and did not
interrupt each other. -/
structure Contending (path : String) (home : Place) (name : String)
    (values : List Json) (start : Disk) (rivals : Rivals)
    (stage : Nat → Drafting) : Prop where
  sound : rivals.disk.Sound
  working : rivals.disk.working = start.working
  works : ∀ who, rivals.works[who]? =
    values[who]?.map fun value =>
      (stage who).rest path (Bytes.ofText value.pretty)
  idle : (∀ who, stage who = .beginning) → rivals.disk = start
  opened : ∀ who, stage who ≠ .beginning → rivals.disk.IsOpen home
  target : rivals.disk.sight? (home ++ [name]) = start.sight? (home ++ [name]) ∨
    ∃ value ∈ values, rivals.disk.sight? (home ++ [name]) =
      some (.file (Bytes.ofText value.pretty))
  opener : ∀ who number, stage who = .filling number →
    rivals.log.foldl openerAfter none = some who
  blank : ∀ who number, stage who = .filling number →
    IsBlankDraft home name number rivals.disk
  naming : ∀ who, stage who = .naming →
    (∀ other number, stage other ≠ .filling number) →
    IsSettled values rivals.disk (home ++ [name ++ ".tmp"])

section Strides

variable {folder name path : String} {home : Place} {values : List Json}
  {value : Json} {start after : Disk} {rivals : Rivals} {stage : Nat → Drafting}
  {who other number : Nat} {current next : Drafting}
  {shown : Option (Exchange Files.Request.Answer)}
  {exchange : Exchange Files.Request.Answer}

theorem contending_start (sound : start.Sound) :
    Contending path home name values start (.start path values start) fun _ =>
      .beginning where
  sound := sound
  working := rfl
  works who := by
    rw [Rivals.start, List.getElem?_map]
    exact congrArg (Option.map · _)
      (funext fun value => writeDocument_eq path value)
  idle _ := rfl
  opened _ begun := absurd rfl begun
  target := .inl rfl
  opener := nofun
  blank := nofun
  naming := nofun

/-- A draft that one writer has open is not touched by another one. -/
theorem Contending.eq_of_touches
    (contending : Contending path home name values start rivals stage)
    (uninterrupted :
      isUninterrupted none (rivals.log ++ [(who, exchange)]) = true)
    (touched : touches exchange = true)
    (filling : stage other = .filling number) : other = who := by
  rw [Files.isUninterrupted_append, contending.opener other number filling,
    Bool.and_eq_true] at uninterrupted
  simpa [isUninterrupted, touched] using uninterrupted.2

/-- It stays open when another writer asks for something else. -/
theorem Contending.opener_append
    (contending : Contending path home name values start rivals stage)
    (unopened : Files.opens exchange = false) (different : other ≠ who)
    (filling : stage other = .filling number) :
    (rivals.log ++ [(who, exchange)]).foldl openerAfter none = some other := by
  rw [List.foldl_append, contending.opener other number filling,
    List.foldl_cons, List.foldl_nil, openerAfter, unopened]
  simp [different]

theorem Contending.isVacant
    (contending : Contending path home name values start rivals stage)
    (naming : stage who = .naming) :
    rivals.disk.IsVacant (home ++ [name ++ ".tmp"]) := by
  by_cases filling : ∃ other number, stage other = .filling number
  · obtain ⟨other, number, filling⟩ := filling
    have blank := contending.blank other number filling
    cases found : rivals.disk.entryAt? (home ++ [name ++ ".tmp"]) with
    | none =>
      exact Files.Disk.isVacant_of_nothing
        (Files.Disk.sight?_eq_none_iff.2 found)
    | some entry =>
      obtain rfl := blank.entry entry found
      exact Files.Disk.isVacant_of_sight? (Files.Disk.sight?_of_entryAt? found)
  · have nobody (other number : Nat) : stage other ≠ .filling number :=
      fun found => filling ⟨other, number, found⟩
    rcases contending.naming who naming nobody with gone | ⟨value, -, seen⟩
    · exact Files.Disk.isVacant_of_nothing gone
    · exact Files.Disk.isVacant_of_sight? seen

/-- A step of a writer is one of the strides. -/
theorem Contending.exists_stride (plain : IsPlain name)
    (contending :
      Contending (join folder name) (placeOf start.working folder) name values
        start rivals stage)
    (found : values[who]? = some value) :
    ∃ next after shown, rivals.step who =
        ⟨after, rivals.works.set who
          (next.rest (join folder name) (Bytes.ofText value.pretty)),
          rivals.log ++ (shown.map (who, ·)).toList⟩ ∧
      Stride (join folder name) (placeOf start.working folder) name
        (Bytes.ofText value.pretty) .serves rivals.disk (stage who) shown
        next after := by
  have vacant (naming : stage who = .naming) :
      rivals.disk.IsVacant
        (placeOf rivals.disk.working folder ++ [name ++ ".tmp"]) := by
    rw [contending.working]
    exact contending.isVacant naming
  have leadsOn : LeadsOn folder name (Bytes.ofText value.pretty) .serves
      rivals.disk (stage who) :=
    Store.exists_stride plain contending.sound vacant _ _
  obtain ⟨next, rest, stride⟩ := leadsOn
  rw [contending.working] at stride
  refine ⟨next, _, _, ?_, stride⟩
  have work := contending.works who
  rw [found, Option.map_some] at work
  rw [Rivals.step, work, ← rest]

/-- What is left to show of a stride. -/
theorem Contending.advance
    (contending : Contending path home name values start rivals stage)
    (found : values[who]? = some value) {log : List Deed}
    (sound : after.Sound) (working : after.working = rivals.disk.working)
    (opened : after.IsOpen home) (begun : next ≠ .beginning)
    (target : after.sight? (home ++ [name]) =
      rivals.disk.sight? (home ++ [name]) ∨
      ∃ value ∈ values, after.sight? (home ++ [name]) =
        some (.file (Bytes.ofText value.pretty)))
    (opener : ∀ other number,
      Function.update stage who next other = .filling number →
      log.foldl openerAfter none = some other)
    (blank : ∀ other number,
      Function.update stage who next other = .filling number →
      IsBlankDraft home name number after)
    (naming : ∀ other, Function.update stage who next other = .naming →
      (∀ other number, Function.update stage who next other ≠ .filling number) →
      IsSettled values after (home ++ [name ++ ".tmp"])) :
    Contending path home name values start
      ⟨after, rivals.works.set who (next.rest path (Bytes.ofText value.pretty)),
        log⟩
      (Function.update stage who next) where
  sound := sound
  working := working.trans contending.working
  works other := by
    have before := contending.works other
    by_cases same : other = who
    · subst same
      rw [found, Option.map_some] at before ⊢
      have within := (List.getElem?_eq_some_iff.1 before).1
      simp [within]
    · rw [Function.update_of_ne same, List.getElem?_set_ne (Ne.symm same)]
      exact before
  idle nobody :=
    absurd ((Function.update_self who next stage).symm.trans (nobody who)) begun
  opened _ _ := opened
  target := target.elim
    (fun same => contending.target.imp same.trans fun ⟨value, among, seen⟩ =>
      ⟨value, among, same.trans seen⟩)
    .inr
  opener := opener
  blank := blank
  naming := naming

/-- After a stride it is the writer who took it that is in a stage, or another
one that was in it. -/
theorem stage_of_update {reached : Drafting}
    (updated : Function.update stage who next other = reached) :
    other = who ∧ next = reached ∨ other ≠ who ∧ stage other = reached := by
  by_cases same : other = who
  · subst same
    exact .inl ⟨rfl, (Function.update_self other next stage).symm.trans updated⟩
  · exact .inr ⟨same,
      (Function.update_of_ne same next stage).symm.trans updated⟩

theorem forall_stage_ne_of_update (still : stage who ≠ .filling number)
    (nobody : ∀ other, Function.update stage who next other ≠ .filling number) :
    ∀ other, stage other ≠ .filling number := by
  intro other filling
  by_cases same : other = who
  · exact still (same ▸ filling)
  · exact nobody other ((Function.update_of_ne same next stage).trans filling)

/-- A stride that leaves the disk alone, and after which the draft is neither
open nor filled for the writer who took it. -/
theorem Contending.unchanged
    (contending : Contending path home name values start rivals stage)
    (found : values[who]? = some value) (opened : rivals.disk.IsOpen home)
    {log : List Deed}
    (opener : ∀ other number, other ≠ who → stage other = .filling number →
      log.foldl openerAfter none = some other)
    (still : ∀ number, stage who ≠ .filling number)
    (aside : next ≠ .beginning ∧ next ≠ .naming ∧
      ∀ number, next ≠ .filling number) :
    Contending path home name values start
      ⟨rivals.disk,
        rivals.works.set who (next.rest path (Bytes.ofText value.pretty)), log⟩
      (Function.update stage who next) := by
  obtain ⟨begun, unnamed, unfilled⟩ := aside
  refine contending.advance found contending.sound rfl opened begun (.inl rfl)
    (fun other number filling => ?_) (fun other number filling => ?_)
    fun other naming nobody => ?_
  · rcases stage_of_update filling with ⟨-, reached⟩ | ⟨different, before⟩
    · exact absurd reached (unfilled number)
    · exact opener other number different before
  · rcases stage_of_update filling with ⟨-, reached⟩ | ⟨-, before⟩
    · exact absurd reached (unfilled number)
    · exact contending.blank other number before
  · rcases stage_of_update naming with ⟨-, reached⟩ | ⟨-, before⟩
    · exact absurd reached unnamed
    · exact contending.naming other before fun other number =>
        forall_stage_ne_of_update (still number) (nobody · number) other

/-- The first stride makes the folder if it is not there. -/
theorem Contending.begun
    (contending : Contending path home name values start rivals stage)
    (found : values[who]? = some value) {made : Disk} {log : List Deed}
    (here : stage who = .beginning)
    (opener : ∀ other number, other ≠ who → stage other = .filling number →
      log.foldl openerAfter none = some other)
    (grown : Files.Disk.Grown rivals.disk made)
    (kept : ∀ other, ¬ other <+: home →
      made.sight? other = rivals.disk.sight? other)
    (opened : made.IsOpen home)
    (stays : rivals.disk.IsOpen home → made = rivals.disk) :
    Contending path home name values start
      ⟨made, rivals.works.set who
        (Drafting.opening.rest path (Bytes.ofText value.pretty)), log⟩
      (Function.update stage who .opening) := by
  by_cases openBefore : rivals.disk.IsOpen home
  · rw [stays openBefore]
    exact contending.unchanged found openBefore opener (by rw [here]; nofun)
      ⟨nofun, nofun, nofun⟩
  · have idle (other : Nat) : stage other = .beginning := by
      by_contra begun
      exact openBefore (contending.opened other begun)
    have beginners {other : Nat} {reached : Drafting}
        (updated : Function.update stage who .opening other = reached) :
        reached = .opening ∨ reached = .beginning := by
      rcases stage_of_update updated with ⟨-, rfl⟩ | ⟨-, before⟩
      · exact .inl rfl
      · exact .inr (before.symm.trans (idle other))
    refine contending.advance found (grown.sound contending.sound)
      grown.working opened nofun (.inl (kept _ (not_prefix_self _ _)))
      (fun other number filling => ?_) (fun other number filling => ?_)
      fun other naming nobody => ?_
    · exact absurd (beginners filling) (by simp)
    · exact absurd (beginners filling) (by simp)
    · exact absurd (beginners naming) (by simp)

/-- The stride that opens the draft. -/
theorem Contending.opened_draft
    (contending : Contending path home name values start rivals stage)
    (found : values[who]? = some value) (touched : touches exchange = true)
    (opens : Files.opens exchange = true) (here : stage who = .opening)
    (uninterrupted :
      isUninterrupted none (rivals.log ++ [(who, exchange)]) = true)
    (opened : rivals.disk.IsOpen home)
    (written : Files.Disk.IsWritten rivals.disk after
      (home ++ [name ++ ".tmp"]) number []) :
    Contending path home name values start
      ⟨after, rivals.works.set who
        (Drafting.rest path (Bytes.ofText value.pretty) (.filling number)),
        rivals.log ++ [(who, exchange)]⟩
      (Function.update stage who (.filling number)) := by
  have nobody (other known : Nat) (filling : stage other = .filling known) :
      False := by
    obtain rfl := contending.eq_of_touches uninterrupted touched filling
    rw [here] at filling
    cases filling
  have apart : after.entryAt? (home ++ [name]) ≠ some (.file number) :=
    fun there =>
      draft_apart home name (written.sound.apart _ _ number written.entry there)
  refine contending.advance found written.sound written.alike.working
    (isOpen_of_alike written.alike opened) nofun
    (.inl (written.alike.elsewhere _ (draft_aside home name)))
    (fun other known filling => ?_) (fun other known filling => ?_)
    fun other _ unfilled => ?_
  · rcases stage_of_update filling with ⟨rfl, -⟩ | ⟨-, before⟩
    · rw [List.foldl_append, List.foldl_cons, List.foldl_nil,
        openerAfter, if_pos opens]
    · exact (nobody other known before).elim
  · rcases stage_of_update filling with ⟨-, reached⟩ | ⟨-, before⟩
    · obtain rfl := Drafting.filling.inj reached
      exact ⟨written.content, apart, fun entry there =>
        Option.some.inj (there.symm.trans written.entry)⟩
    · exact (nobody other known before).elim
  · exact absurd (Function.update_self who (Drafting.filling number) stage)
      (unfilled who number)

/-- The stride that fills the draft. Whoever names it now names the whole
text. -/
theorem Contending.filled
    (contending : Contending path home name values start rivals stage)
    (found : values[who]? = some value) (touched : touches exchange = true)
    (here : stage who = .filling number)
    (uninterrupted :
      isUninterrupted none (rivals.log ++ [(who, exchange)]) = true) :
    Contending path home name values start
      ⟨rivals.disk.write number (Bytes.ofText value.pretty),
        rivals.works.set who
          (Drafting.naming.rest path (Bytes.ofText value.pretty)),
        rivals.log ++ [(who, exchange)]⟩
      (Function.update stage who .naming) := by
  have blank := contending.blank who number here
  have opened := contending.opened who (by simp [here])
  have nobody (other known : Nat)
      (filling : Function.update stage who .naming other = .filling known) :
        False := by
    rcases stage_of_update filling with ⟨-, reached⟩ | ⟨different, before⟩
    · cases reached
    · exact different (contending.eq_of_touches uninterrupted touched before)
  have settled :
      IsSettled values (rivals.disk.write number (Bytes.ofText value.pretty))
        (home ++ [name ++ ".tmp"]) := by
    cases there : rivals.disk.entryAt? (home ++ [name ++ ".tmp"]) with
    | none => exact .inl (Files.Disk.sight?_eq_none_iff.2 there)
    | some entry =>
      obtain rfl := blank.entry entry there
      refine .inr ⟨value, List.mem_of_getElem? found,
        Files.Disk.sight?_eq_file_iff.2 ⟨number, there, ?_⟩⟩
      rw [Files.Disk.write, blank.content, List.drop_nil, List.append_nil]
      simp [Files.Disk.content, contending.sound.stored _ number there]
  exact contending.advance found (contending.sound.write number _) rfl
    (opened.write number _) (by simp)
    (.inl (Files.Disk.sight?_write blank.apart _))
    (fun other known filling => (nobody other known filling).elim)
    (fun other known filling => (nobody other known filling).elim)
    fun _ _ _ => settled

/-- The stride that gives the draft the name of the file. -/
theorem Contending.named
    (contending : Contending path home name values start rivals stage)
    (found : values[who]? = some value) (touched : touches exchange = true)
    (here : stage who = .naming)
    (uninterrupted :
      isUninterrupted none (rivals.log ++ [(who, exchange)]) = true)
    (sound : after.Sound) (working : after.working = rivals.disk.working)
    (opened : after.IsOpen home)
    (naming : Naming home name rivals.disk after (stage who) next) :
    Contending path home name values start
      ⟨after, rivals.works.set who (next.rest path (Bytes.ofText value.pretty)),
        rivals.log ++ [(who, exchange)]⟩
      (Function.update stage who next) := by
  have nobody (other known : Nat) : stage other ≠ .filling known := by
    intro filling
    obtain rfl := contending.eq_of_touches uninterrupted touched filling
    rw [here] at filling
    cases filling
  have updated (other known : Nat)
      (filling : Function.update stage who next other = .filling known) :
        False := by
    rcases stage_of_update filling with ⟨-, reached⟩ | ⟨-, before⟩
    · exact nomatch naming.next.symm.trans reached
    · exact nobody other known before
  have target : ∃ value ∈ values, after.sight? (home ++ [name]) =
      some (.file (Bytes.ofText value.pretty)) := by
    rw [naming.target]
    refine (contending.naming who here nobody).resolve_left fun gone => ?_
    obtain ⟨number, there⟩ := naming.file
    exact nomatch there.symm.trans (Files.Disk.sight?_eq_none_iff.1 gone)
  exact contending.advance found sound working opened
    (by rw [naming.next]; nofun) (.inr target)
    (fun other known filling => (updated other known filling).elim)
    (fun other known filling => (updated other known filling).elim) fun _ _ _ =>
      .inl naming.draft

/-- The stride that removes the draft after it could not be named. -/
theorem Contending.dropped
    (contending : Contending path home name values start rivals stage)
    (found : values[who]? = some value) {log : List Deed}
    {result : Except StoreError Unit} (opened : rivals.disk.IsOpen home)
    (opener : ∀ other number, other ≠ who → stage other = .filling number →
      log.foldl openerAfter none = some other) :
    Contending path home name values start
      ⟨rivals.disk.drop (home ++ [name ++ ".tmp"]),
        rivals.works.set who
          (Drafting.rest path (Bytes.ofText value.pretty) (.ended result)), log⟩
      (Function.update stage who (.ended result)) := by
  have gone : (rivals.disk.drop (home ++ [name ++ ".tmp"])).entryAt?
      (home ++ [name ++ ".tmp"]) = none := by
    rw [Files.Disk.entryAt?_drop (by simp), if_pos List.prefix_rfl]
  have openAfter :
      (rivals.disk.drop (home ++ [name ++ ".tmp"])).IsOpen home := by
    intro front within
    rw [Files.Disk.sight?_drop (by simp) fun below =>
      not_prefix_self _ _ (below.trans within)]
    exact opened front within
  refine contending.advance found (contending.sound.drop (by simp)) rfl
    openAfter nofun
    (.inl (Files.Disk.sight?_drop (by simp) (draft_aside home name)))
    (fun other known filling => ?_) (fun other known filling => ?_)
    fun _ _ _ => .inl (Files.Disk.sight?_eq_none_iff.2 gone)
  · rcases stage_of_update filling with ⟨-, reached⟩ | ⟨different, before⟩
    · cases reached
    · exact opener other known different before
  · rcases stage_of_update filling with ⟨-, reached⟩ | ⟨different, before⟩
    · cases reached
    · have blank := contending.blank other known before
      refine ⟨blank.content, ?_,
        fun entry there => nomatch there.symm.trans gone⟩
      rw [Files.Disk.entryAt?_drop (by simp), if_neg (draft_aside home name)]
      exact blank.apart

/-- Every stride keeps what is known, as long as no draft is touched that is
open for another one. -/
theorem Contending.stride
    (contending : Contending path home name values start rivals stage)
    (found : values[who]? = some value)
    (reachable : rivals.disk.IsReachable home)
    (stride : Stride path home name (Bytes.ofText value.pretty) .serves
      rivals.disk (stage who) shown next after)
    (uninterrupted :
      isUninterrupted none (rivals.log ++ (shown.map (who, ·)).toList) = true) :
    Contending path home name values start
      ⟨after, rivals.works.set who (next.rest path (Bytes.ofText value.pretty)),
        rivals.log ++ (shown.map (who, ·)).toList⟩
      (Function.update stage who next) := by
  have opened (begun : stage who ≠ .beginning) := contending.opened who begun
  generalize here : stage who = current at stride opened
  cases stride with
  | begun served grown kept openAfter stays =>
    exact contending.begun found here (fun _ _ => contending.opener_append rfl)
      grown kept openAfter stays
  | notBegun fault grown kept cause => exact absurd reachable (cause rfl)
  | opened served openHome written =>
    exact contending.opened_draft found rfl rfl here uninterrupted
      openHome written
  | notOpened fault cause =>
    exact contending.unchanged found (opened nofun)
      (fun _ _ => contending.opener_append rfl)
      (by rw [here]; nofun) ⟨nofun, nofun, nofun⟩
  | filled number served => exact contending.filled found rfl here uninterrupted
  | notFilled number done reason failed => cases failed
  | named served openHome there free =>
    have stride : Stride path home name (Bytes.ofText value.pretty) .serves
        rivals.disk .naming _ _ _ :=
      .named served openHome there free
    exact contending.named found rfl here uninterrupted
      (stride.sound contending.sound) rfl
      (stride.isOpen contending.sound openHome)
      (here ▸ stride.naming contending.sound rfl)
  | notNamed fault cause =>
    exact contending.unchanged found (opened nofun)
      (fun _ _ => contending.opener_append rfl)
      (by rw [here]; nofun) ⟨nofun, nofun, nofun⟩
  | dropped fault answer left =>
    rcases left with rfl | rfl
    · exact contending.unchanged found (opened nofun)
        (fun _ _ => contending.opener_append rfl)
        (by rw [here]; nofun) ⟨nofun, nofun, nofun⟩
    · exact contending.dropped found (opened nofun) fun _ _ =>
        contending.opener_append rfl
  | ended result =>
    refine contending.unchanged found (opened nofun)
      (fun other number _ filling => ?_) (by rw [here]; nofun)
      ⟨nofun, nofun, nofun⟩
    rw [Option.map_none, Option.toList_none, List.append_nil]
    exact contending.opener other number filling

/-- A stride that does not end the work with success leaves the file alone. -/
theorem Contending.sight?_target
    (contending : Contending path home name values start rivals stage)
    (stride : Stride path home name (Bytes.ofText value.pretty) .serves
      rivals.disk (stage who) shown next after)
    (unfinished : next ≠ .ended (.ok ())) :
    after.sight? (home ++ [name]) = rivals.disk.sight? (home ++ [name]) := by
  refine stride.sight?_target ?_ fun number filling =>
    (contending.blank who number filling).apart
  cases named : shown.any Files.names with
  | false => rfl
  | true => exact absurd (stride.naming contending.sound named).next unfinished

end Strides

section Runs

variable {folder name : String} {values : List Json} {start : Disk}
  {rivals : Rivals} {stage : Nat → Drafting} {home : Place} {path : String}

theorem Contending.isReachable
    (contending : Contending path home name values start rivals stage)
    (reachable : start.IsReachable home) : rivals.disk.IsReachable home := by
  by_cases begun : ∃ who, stage who ≠ .beginning
  · obtain ⟨who, begun⟩ := begun
    exact (contending.opened who begun).isReachable
  · rw [contending.idle fun who =>
      by_contra fun further => begun ⟨who, further⟩]
    exact reachable

theorem Contending.read_eq (plain : IsPlain name)
    (contending :
      Contending (join folder name) (placeOf start.working folder) name values
        start rivals stage)
    (reachable : start.IsReachable (placeOf start.working folder))
    (hidden : ¬ start.IsOpen (placeOf start.working folder) →
      start.sight? (placeOf start.working folder ++ [name]) = none) :
    rivals.disk.read (join folder name) =
      Files.Disk.readSight
        (rivals.disk.sight? (placeOf start.working folder ++ [name])) := by
  refine Files.Disk.read_of_isReachable ?_ (contending.isReachable reachable)
    fun closed => ?_
  · rw [plain.placeOf_join, contending.working]
  · have idle : rivals.disk = start := contending.idle fun who =>
      by_contra fun begun => closed (contending.opened who begun)
    rw [idle] at closed ⊢
    exact hidden closed

theorem Contending.step (plain : IsPlain name)
    (contending :
      Contending (join folder name) (placeOf start.working folder) name values
        start rivals stage)
    (reachable : start.IsReachable (placeOf start.working folder)) (who : Nat)
    (uninterrupted : isUninterrupted none (rivals.step who).log = true) :
    ∃ after, Contending (join folder name) (placeOf start.working folder)
      name values start (rivals.step who) after := by
  cases found : values[who]? with
  | none =>
    have nothing := contending.works who
    rw [found] at nothing
    rw [Rivals.step, nothing]
    exact ⟨stage, contending⟩
  | some value =>
    obtain ⟨next, after, shown, taken, stride⟩ :=
      contending.exists_stride plain found
    rw [taken] at uninterrupted ⊢
    exact ⟨_, contending.stride found (contending.isReachable reachable) stride
      uninterrupted⟩

theorem exists_contending (plain : IsPlain name) (sound : start.Sound)
    (reachable : start.IsReachable (placeOf start.working folder))
    (schedule : List Nat) (uninterrupted : isUninterrupted none
      ((Rivals.start (join folder name) values start).run schedule).log =
        true) :
    ∃ stage, Contending (join folder name) (placeOf start.working folder)
      name values start ((Rivals.start (join folder name) values start).run
        schedule) stage := by
  induction schedule using List.reverseRecOn with
  | nil => exact ⟨_, contending_start sound⟩
  | append_singleton former who formerFact =>
    rw [Rivals.run_append] at uninterrupted ⊢
    obtain ⟨shown, log, -⟩ :=
      ((Rivals.start (join folder name) values start).run
        former).exists_log_step who
    have before := uninterrupted
    change isUninterrupted none (Rivals.step _ who).log = true at before
    rw [log, Files.isUninterrupted_append, Bool.and_eq_true] at before
    obtain ⟨stage, contending⟩ := formerFact before.1
    exact contending.step plain reachable who uninterrupted

/-- A step of a call that fails in the end leaves what is read alone. -/
theorem Contending.read_step (plain : IsPlain name)
    (contending :
      Contending (join folder name) (placeOf start.working folder) name values
        start rivals stage)
    (reachable : start.IsReachable (placeOf start.working folder))
    (hidden : ¬ start.IsOpen (placeOf start.working folder) →
      start.sight? (placeOf start.working folder ++ [name]) = none)
    {who : Nat}
    (uninterrupted : isUninterrupted none (rivals.step who).log = true)
    (unfinished : (rivals.step who).works[who]? ≠ some (.done (.ok ()))) :
    (rivals.step who).disk.read (join folder name) =
      rivals.disk.read (join folder name) := by
  cases found : values[who]? with
  | none =>
    have nothing := contending.works who
    rw [found] at nothing
    rw [Rivals.step, nothing]
    rfl
  | some value =>
    obtain ⟨next, after, shown, taken, stride⟩ :=
      contending.exists_stride plain found
    rw [taken] at uninterrupted unfinished ⊢
    have onward :=
      contending.stride found (contending.isReachable reachable)
        stride uninterrupted
    rw [onward.read_eq plain reachable hidden,
      contending.read_eq plain reachable hidden]
    refine congrArg _ (contending.sight?_target stride ?_)
    rintro rfl
    refine unfinished ?_
    rw [onward.works who, found, Function.update_self]
    rfl

end Runs

/-! ## Interrupted writers -/

section Turns

variable {disk : Disk} {folder name : String} {home : Place} {number : Nat}
  (bytes : Bytes)

theorem turn_beginning (plain : IsPlain name)
    (there : placeOf disk.working folder = home) (opened : disk.IsOpen home) :
    turn .serves (Drafting.beginning.rest (join folder name) bytes, disk) =
      (Drafting.opening.rest (join folder name) bytes, disk) := by
  have toHome := (plain.placeOf_parent?_join disk.working folder).trans there
  simp only [Drafting.rest, beginDraft, Files.ask, Routine.call_bind, turn,
    Files.Disk.meet, Files.Disk.answer,
    Files.Disk.makeFolders_of_isOpen toHome opened]

theorem turn_opening_new (plain : IsPlain name)
    (there : placeOf disk.working folder = home)
    (opened : disk.IsOpen home)
    (free : disk.entryAt? (home ++ [name ++ ".tmp"]) = none) :
    turn .serves (Drafting.opening.rest (join folder name) bytes, disk) =
      (Drafting.rest (join folder name) bytes (.filling disk.contents.length),
        { disk.put (home ++ [name ++ ".tmp"]) (.file disk.contents.length) with
          contents := disk.contents ++ [[]] }) := by
  have toDraft := placeOf_draftPath plain disk.working folder
  rw [there] at toDraft
  simp only [Drafting.rest, openDraft, Files.ask, Routine.call_bind, turn,
    Files.Disk.meet, Files.Disk.answer, Files.Disk.truncate,
    Files.Disk.reach_of_isOpen toDraft opened, free]

theorem turn_opening_old (plain : IsPlain name)
    (there : placeOf disk.working folder = home) (opened : disk.IsOpen home)
    (found : disk.entryAt? (home ++ [name ++ ".tmp"]) = some (.file number)) :
    turn .serves (Drafting.opening.rest (join folder name) bytes, disk) =
      (Drafting.rest (join folder name) bytes (.filling number),
        { disk with contents := disk.contents.set number [] }) := by
  have toDraft := placeOf_draftPath plain disk.working folder
  rw [there] at toDraft
  simp only [Drafting.rest, openDraft, Files.ask, Routine.call_bind, turn,
    Files.Disk.meet, Files.Disk.answer, Files.Disk.truncate,
    Files.Disk.reach_of_isOpen toDraft opened, found]

theorem turn_naming (plain : IsPlain name)
    (there : placeOf disk.working folder = home) (opened : disk.IsOpen home)
    (found : disk.entryAt? (home ++ [name ++ ".tmp"]) = some (.file number))
    (free : disk.sight? (home ++ [name]) ≠ some .folder) :
    turn .serves (Drafting.naming.rest (join folder name) bytes, disk) =
      (Drafting.rest (join folder name) bytes (.ended (.ok ())),
        (disk.drop (home ++ [name ++ ".tmp"])).put (home ++ [name])
          (.file number)) := by
  have fromDraft := placeOf_draftPath plain disk.working folder
  have leads := plain.placeOf_join disk.working folder
  rw [there] at fromDraft leads
  simp only [Drafting.rest, nameDraft, Files.ask, Routine.call_bind, turn,
    Files.Disk.meet, Files.Disk.answer,
    Files.Disk.rename_of_file fromDraft leads opened found, if_neg free]
  rfl

/-- A draft that is gone cannot be given the name, nor be removed. -/
theorem turn_naming_gone (plain : IsPlain name)
    (there : placeOf disk.working folder = home)
    (opened : disk.IsOpen home)
    (gone : disk.entryAt? (home ++ [name ++ ".tmp"]) = none) :
    undergo [.serves, .serves]
      (Drafting.naming.rest (join folder name) bytes, disk) =
      (.done (.error (.files Fault.notFound.message)), disk) := by
  have fromDraft := placeOf_draftPath plain disk.working folder
  have leads := plain.placeOf_join disk.working folder
  rw [there] at fromDraft leads
  have refused := Files.Disk.rename_of_nothing fromDraft leads opened gone
  have nothing : disk.remove (draftPath (join folder name)) =
      (.error .notFound, disk) := by
    rw [Files.Disk.remove, Files.Disk.reach_of_isOpen fromDraft opened]
    simp only [gone]
  simp only [undergo, List.foldl_cons, List.foldl_nil, Drafting.rest, nameDraft,
    dropDraft, giveUp, Files.ask, Routine.call_bind, turn, Files.Disk.meet,
    Files.Disk.answer, refused, nothing]
  rfl

end Turns

namespace Rivals

theorem run_replicate {rivals : Rivals} {who : Nat}
    {work : Work (Except StoreError Unit)} (count : Nat)
    (found : rivals.works[who]? = some work) :
    let state := undergo (List.replicate count .serves) (work, rivals.disk)
    (rivals.run (List.replicate count who)).disk = state.2 ∧
      (rivals.run (List.replicate count who)).works =
        rivals.works.set who state.1 := by
  induction count generalizing rivals work with
  | zero =>
    obtain ⟨within, same⟩ := List.getElem?_eq_some_iff.1 found
    exact ⟨rfl, by rw [← same]; exact (List.set_getElem_self within).symm⟩
  | succ count countFact =>
    have within := (List.getElem?_eq_some_iff.1 found).1
    have first : rivals.step who = ⟨(turn .serves (work, rivals.disk)).2,
        rivals.works.set who (turn .serves (work, rivals.disk)).1,
        (rivals.step who).log⟩ := by
      unfold step
      rw [found]
    have next : (rivals.step who).works[who]? =
        some (turn .serves (work, rivals.disk)).1 := by
      rw [first]
      simp [within]
    obtain ⟨onDiskAfter, worksAfter⟩ := countFact next
    have onDisk : (rivals.step who).disk =
        (turn .serves (work, rivals.disk)).2 := by
      rw [first]
    have works : (rivals.step who).works =
        rivals.works.set who (turn .serves (work, rivals.disk)).1 := by
      rw [first]
    rw [onDisk] at onDiskAfter worksAfter
    rw [works, List.set_set] at worksAfter
    exact ⟨onDiskAfter, worksAfter⟩

/-- What is on the disk, and the texts of the writers with the stages that they
have reached. -/
structure StandsAt (path : String) (disk : Disk)
    (writers : List (Bytes × Drafting)) (rivals : Rivals) : Prop where
  disk : rivals.disk = disk
  works : rivals.works = writers.map fun writer => writer.2.rest path writer.1

theorem StandsAt.run {path : String} {rivals : Rivals} {disk after : Disk}
    {writers : List (Bytes × Drafting)} {bytes : Bytes} {stage next : Drafting}
    (stands : StandsAt path disk writers rivals) (who count : Nat)
    (found : writers[who]? = some (bytes, stage))
    (taken :
      undergo (List.replicate count .serves) (stage.rest path bytes, disk) =
      (next.rest path bytes, after)) :
    StandsAt path after (writers.set who (bytes, next))
      (rivals.run (List.replicate count who)) := by
  have work : rivals.works[who]? = some (stage.rest path bytes) := by
    rw [stands.works, List.getElem?_map, found]
    rfl
  obtain ⟨onDisk, works⟩ := run_replicate count work
  rw [stands.disk, taken] at onDisk works
  exact ⟨onDisk, by rw [works, stands.works, List.map_set]⟩

/-- Nobody was interrupted so far, and nobody but one writer may have the draft
open. -/
structure IsLeftTo (who : Nat) (rivals : Rivals) : Prop where
  uninterrupted : isUninterrupted none rivals.log = true
  opener : (rivals.log.foldl openerAfter none).all (· == who) = true

variable {rivals : Rivals} {who : Nat}

theorem IsLeftTo.run (left : IsLeftTo who rivals) (count : Nat) :
    IsLeftTo who (rivals.run (List.replicate count who)) := by
  obtain ⟨shown, log, own⟩ := rivals.exists_log_run (List.replicate count who)
  obtain ⟨rest, opener⟩ :=
    Files.isUninterrupted_own left.opener fun deed among =>
      List.eq_of_mem_replicate (own deed among)
  refine ⟨?_, ?_⟩
  · rw [log, Files.isUninterrupted_append, left.uninterrupted, rest]
    rfl
  · rw [log, List.foldl_append]
    exact opener

/-- After a step that opens nothing it is anybody's turn. -/
theorem IsLeftTo.hand_over (left : IsLeftTo who rivals)
    {work : Work (Except StoreError Unit)}
    {exchange : Exchange Files.Request.Answer}
    (found : rivals.works[who]? = some work)
    (told : told? .serves (work, rivals.disk) = some exchange)
    (unopened : Files.opens exchange = false) (other : Nat) :
    IsLeftTo other (rivals.run (List.replicate 1 who)) := by
  have log : (rivals.run (List.replicate 1 who)).log =
      rivals.log ++ [(who, exchange)] := by
    change (rivals.step who).log = _
    rw [step, found]
    simp only [told]
    rfl
  refine ⟨(left.run 1).uninterrupted, ?_⟩
  rw [log, List.foldl_append, List.foldl_cons,
    Files.openerAfter_eq_none left.opener unopened]
  rfl

end Rivals

section Interruptions

/-- The folder "/srv" with the one file that has the only content. -/
def lone (name : String) (bytes : Bytes) : Disk :=
  ⟨[(["srv"], .folder), (["srv", name], .file 0)], [bytes], ["srv"]⟩

theorem isOpen_srv {disk : Disk}
    (found : disk.entryAt? ["srv"] = some .folder) :
    disk.IsOpen ["srv"] := by
  intro front within
  rcases List.prefix_cons_iff.1 within with rfl | ⟨rest, rfl, nothing⟩
  · rfl
  · rw [List.prefix_nil.1 nothing]
    exact Files.Disk.sight?_eq_folder_iff.2 found

variable (bytes draft : Bytes)

theorem undergo_begin_new :
    undergo (List.replicate 2 .serves)
        (Drafting.beginning.rest (join "" "autoswitch.json") bytes,
          Disk.blank ["srv"]) =
      (Drafting.rest (join "" "autoswitch.json") bytes (.filling 0),
        lone "autoswitch.json.tmp" []) := by
  have opened : (Disk.blank ["srv"]).IsOpen ["srv"] := isOpen_srv rfl
  have there : placeOf (Disk.blank ["srv"]).working "" = ["srv"] :=
    Files.placeOf_empty _
  rw [List.replicate_succ, Files.undergo_cons,
    turn_beginning bytes isPlain_policyName there opened,
    List.replicate_one, Files.undergo_cons,
    turn_opening_new bytes isPlain_policyName there opened rfl]
  rfl

theorem undergo_begin_old :
    undergo (List.replicate 2 .serves)
        (Drafting.beginning.rest (join "" "autoswitch.json") bytes,
          lone "autoswitch.json.tmp" draft) =
      (Drafting.rest (join "" "autoswitch.json") bytes (.filling 0),
        lone "autoswitch.json.tmp" []) := by
  have opened : (lone "autoswitch.json.tmp" draft).IsOpen ["srv"] :=
    isOpen_srv rfl
  have there : placeOf (lone "autoswitch.json.tmp" draft).working "" =
      ["srv"] :=
    Files.placeOf_empty _
  rw [List.replicate_succ, Files.undergo_cons,
    turn_beginning bytes isPlain_policyName there opened,
    List.replicate_one, Files.undergo_cons,
    turn_opening_old bytes isPlain_policyName there opened rfl]
  rfl

theorem undergo_fill (name : String) :
    undergo (List.replicate 1 .serves)
        (Drafting.rest (join "" "autoswitch.json") bytes (.filling 0),
          lone name draft) =
      (Drafting.naming.rest (join "" "autoswitch.json") bytes,
        lone name (bytes ++ draft.drop bytes.length)) := rfl

theorem undergo_name :
    undergo (List.replicate 1 .serves)
        (Drafting.naming.rest (join "" "autoswitch.json") bytes,
          lone "autoswitch.json.tmp" draft) =
      (Drafting.rest (join "" "autoswitch.json") bytes (.ended (.ok ())),
        lone "autoswitch.json" draft) := by
  have opened : (lone "autoswitch.json.tmp" draft).IsOpen ["srv"] :=
    isOpen_srv rfl
  have there : placeOf (lone "autoswitch.json.tmp" draft).working "" =
      ["srv"] :=
    Files.placeOf_empty _
  rw [List.replicate_one, Files.undergo_cons,
    turn_naming bytes isPlain_policyName there opened rfl nofun]
  rfl

theorem undergo_name_gone :
    undergo (List.replicate 2 .serves)
        (Drafting.naming.rest (join "" "autoswitch.json") bytes,
          lone "autoswitch.json" draft) =
      (Drafting.rest (join "" "autoswitch.json") bytes
          (.ended (.error (.files Fault.notFound.message))),
            lone "autoswitch.json" draft) := by
  have opened : (lone "autoswitch.json" draft).IsOpen ["srv"] := isOpen_srv rfl
  have there : placeOf (lone "autoswitch.json" draft).working "" = ["srv"] :=
    Files.placeOf_empty _
  exact turn_naming_gone bytes isPlain_policyName there opened rfl

theorem read_lone :
    (lone "autoswitch.json" bytes).read (join "" "autoswitch.json") =
      .ok bytes := by
  have leads : placeOf (lone "autoswitch.json" bytes).working
      (join "" "autoswitch.json") = ["srv"] ++ ["autoswitch.json"] := by
    rw [isPlain_policyName.placeOf_join]
    exact congrArg (· ++ _) (Files.placeOf_empty _)
  exact Files.Disk.read_of_isOpen leads (isOpen_srv rfl)

variable (first second : Json)

/-- Two writers of a policy in an empty folder. -/
def duel : Rivals :=
  Rivals.start (join "" "autoswitch.json") [first, second] (Disk.blank ["srv"])

theorem standsAt_duel :
    Rivals.StandsAt (join "" "autoswitch.json") (Disk.blank ["srv"])
      [(Bytes.ofText first.pretty, .beginning),
        (Bytes.ofText second.pretty, .beginning)]
      (duel first second) := by
  refine ⟨rfl, ?_⟩
  rw [List.map_cons, List.map_cons, ← writeDocument_eq, ← writeDocument_eq]
  rfl

/-- A draft that was filled by one writer and emptied by another one is given
the name. -/
theorem read_emptied_draft :
    ((duel first second).run [0, 0, 0, 1, 1, 0]).disk.read
      (join "" "autoswitch.json") = .ok [] := by
  have begun := (standsAt_duel first second).run 0 2 rfl (undergo_begin_new _)
  have filled := begun.run 0 1 rfl (undergo_fill _ _ _)
  have emptied := filled.run 1 2 rfl (undergo_begin_old _ _)
  have named := emptied.run 0 1 rfl (undergo_name _ _)
  exact (congrArg (Disk.read · _) named.disk).trans (read_lone [])

/-- A draft that is open for one writer is filled and named by another one. -/
theorem standsAt_named :
    Rivals.StandsAt (join "" "autoswitch.json")
      (lone "autoswitch.json" (Bytes.ofText first.pretty))
      [(Bytes.ofText first.pretty, .ended (.ok ())),
        (Bytes.ofText second.pretty, .filling 0)]
      ((duel first second).run [1, 1, 0, 0, 0, 0]) := by
  have opened := (standsAt_duel first second).run 1 2 rfl (undergo_begin_new _)
  have emptied := opened.run 0 2 rfl (undergo_begin_old _ _)
  have filled := emptied.run 0 1 rfl (undergo_fill _ _ _)
  rw [List.drop_nil, List.append_nil] at filled
  have named := filled.run 0 1 rfl (undergo_name _ _)
  rw [← Rivals.run_append, ← Rivals.run_append, ← Rivals.run_append] at named
  exact named

/-- The writer who has it open then writes over the file, and fails. -/
theorem standsAt_late_filling :
    Rivals.StandsAt (join "" "autoswitch.json")
      (lone "autoswitch.json" (Bytes.ofText second.pretty ++
        (Bytes.ofText first.pretty).drop (Bytes.ofText second.pretty).length))
      [(Bytes.ofText first.pretty, .ended (.ok ())),
        (Bytes.ofText second.pretty,
          .ended (.error (.files Fault.notFound.message)))]
      ((duel first second).run [1, 1, 0, 0, 0, 0, 1, 1, 1]) := by
  have filled := (standsAt_named first second).run 1 1 rfl (undergo_fill _ _ _)
  have refused := filled.run 1 2 rfl (undergo_name_gone _ _)
  rw [← Rivals.run_append, ← Rivals.run_append] at refused
  exact refused

/-- A draft that both writers have filled is named by the second one, and the
first one finds nothing that it could name. -/
theorem standsAt_outrun :
    let outrun := (duel first second).run [0, 0, 0, 1, 1, 1, 1, 0, 0]
    Rivals.StandsAt (join "" "autoswitch.json")
        (lone "autoswitch.json" (Bytes.ofText second.pretty))
        [(Bytes.ofText first.pretty,
            .ended (.error (.files Fault.notFound.message))),
          (Bytes.ofText second.pretty, .ended (.ok ()))] outrun ∧
      isUninterrupted none outrun.log = true := by
  have calm : Rivals.IsLeftTo 0 (duel first second) := ⟨rfl, rfl⟩
  have begun := (standsAt_duel first second).run 0 2 rfl (undergo_begin_new _)
  have filled := begun.run 0 1 rfl (undergo_fill _ _ _)
  have calmFilled :=
    (calm.run 2).hand_over (congrArg (·[0]?) begun.works) rfl rfl 1
  have emptied := filled.run 1 2 rfl (undergo_begin_old _ _)
  have refilled := emptied.run 1 1 rfl (undergo_fill _ _ _)
  rw [List.drop_nil, List.append_nil] at refilled
  have calmRefilled :=
    (calmFilled.run 2).hand_over (congrArg (·[1]?) emptied.works) rfl rfl 1
  have named := refilled.run 1 1 rfl (undergo_name _ _)
  have calmNamed :=
    calmRefilled.hand_over (congrArg (·[1]?) refilled.works) rfl rfl 0
  have refused := named.run 0 2 rfl (undergo_name_gone _ _)
  have calmRefused := calmNamed.run 2
  simp only [← Rivals.run_append] at refused calmRefused
  exact ⟨refused, calmRefused.uninterrupted⟩

end Interruptions

/-- As long as nobody touches a draft that is open for somebody else, the file
always reads as it did at first or as the whole text of one of the values, and a
call that fails has not changed it. -/
theorem rivals_show_whole_texts {folder name : String}
    (plain : IsPlain name) {disk : Disk} (sound : disk.Sound)
    (reachable : disk.IsReachable (placeOf disk.working folder))
    (hidden : ¬ disk.IsOpen (placeOf disk.working folder) →
      disk.sight? (placeOf disk.working folder ++ [name]) = none)
    (values : List Json) (schedule : List Nat)
    (uninterrupted : isUninterrupted none
      ((Rivals.start (join folder name) values disk).run schedule).log = true) :
    let path := join folder name
    let start := Rivals.start path values disk
    ((start.run schedule).disk.read path = disk.read path ∨
      ∃ value ∈ values, (start.run schedule).disk.read path =
        .ok (Bytes.ofText value.pretty)) ∧
    ∀ who error, (start.run schedule).works[who]? =
      some (.done (.error error)) →
      ∀ former latter, schedule = former ++ who :: latter →
        (start.run (former ++ [who])).disk.read path =
          (start.run former).disk.read path := by
  intro path start
  refine ⟨?_, fun who error failed former latter split => ?_⟩
  · obtain ⟨stage, contending⟩ :=
      exists_contending plain sound reachable schedule uninterrupted
    have first : disk.read path =
        Files.Disk.readSight
          (disk.sight? (placeOf disk.working folder ++ [name])) :=
      Files.Disk.read_of_isReachable (plain.placeOf_join disk.working folder)
        reachable hidden
    rw [contending.read_eq plain reachable hidden, first]
    refine contending.target.imp (fun same => congrArg _ same) ?_
    rintro ⟨value, among, seen⟩
    exact ⟨value, among, by rw [seen]; rfl⟩
  · subst split
    have whole : start.run (former ++ who :: latter) =
        ((start.run former).step who).run latter := by
      rw [Rivals.run_append]
      rfl
    have here : start.run (former ++ [who]) = (start.run former).step who :=
      Rivals.run_append _ _ _
    rw [whole] at uninterrupted failed
    obtain ⟨later, laterLog, -⟩ :=
      ((start.run former).step who).exists_log_run latter
    rw [laterLog, Files.isUninterrupted_append, Bool.and_eq_true]
      at uninterrupted
    have soFar := uninterrupted.1
    obtain ⟨shown, log, -⟩ := (start.run former).exists_log_step who
    rw [log, Files.isUninterrupted_append, Bool.and_eq_true] at soFar
    obtain ⟨stage, contending⟩ :=
      exists_contending plain sound reachable former soFar.1
    rw [here]
    refine contending.read_step plain reachable hidden uninterrupted.1
      fun done => ?_
    have stays := Rivals.works_run_of_done done latter
    exact nomatch stays.symm.trans failed

/-- Two writers fill the draft in turn. The second one gives it its name, and
the first one then finds no draft to name: its call fails, and the file keeps
the whole policy of the other one. -/
theorem policy_whole_beside_rival :
    let path := join "" "autoswitch.json"
    let disk := Disk.blank ["srv"]
    let first :=
      Policy.toJson { Policy.initial with targetGroup := "Streaming" }
    let second := Policy.initial.toJson
    let start := Rivals.start path [first, second] disk
    let named := start.run [0, 0, 0, 1, 1, 1, 1]
    let refused := start.run [0, 0, 0, 1, 1, 1, 1, 0]
    let outrun := start.run [0, 0, 0, 1, 1, 1, 1, 0, 0]
    disk.Sound ∧ disk.IsReachable ["srv"] ∧
      isUninterrupted none outrun.log = true ∧
      (outrun.disk.read path = disk.read path ∨
        ∃ value ∈ [first, second],
          outrun.disk.read path = .ok (Bytes.ofText value.pretty)) ∧
      outrun.disk.read path = .ok (Bytes.ofText second.pretty) ∧
      outrun.works[0]? =
        some
          (.done (.error (.files "No such file or directory (os error 2)"))) ∧
      refused.disk.read path = named.disk.read path ∧
      outrun.disk.read path = refused.disk.read path := by
  intro path disk first second start named refused outrun
  have sound : disk.Sound := Files.Disk.sound_blank _
  have there : placeOf disk.working "" = ["srv"] := Files.placeOf_empty _
  have opened : disk.IsOpen ["srv"] := isOpen_srv rfl
  have reachable : disk.IsReachable (placeOf disk.working "") := by
    rw [there]
    exact opened.isReachable
  have hidden (closed : ¬ disk.IsOpen (placeOf disk.working "")) :
      disk.sight? (placeOf disk.working "" ++ ["autoswitch.json"]) = none := by
    rw [there] at closed
    exact absurd opened closed
  obtain ⟨stands, uninterrupted⟩ := standsAt_outrun first second
  have held : outrun.disk.read path = .ok (Bytes.ofText second.pretty) :=
    (congrArg (Disk.read · _) stands.disk).trans (read_lone _)
  have failed : outrun.works[0]? =
      some (.done (.error (.files "No such file or directory (os error 2)"))) :=
    congrArg (·[0]?) stands.works
  obtain ⟨whole, unchanged⟩ := rivals_show_whole_texts isPlain_policyName sound
    reachable hidden [first, second] [0, 0, 0, 1, 1, 1, 1, 0, 0] uninterrupted
  exact ⟨sound, opened.isReachable, uninterrupted, whole, held, failed,
    unchanged 0 _ failed [0, 0, 0, 1, 1, 1, 1] [0] rfl,
    unchanged 0 _ failed [0, 0, 0, 1, 1, 1, 1, 0] [] rfl⟩

/-- Two calls that write a policy at the same time can leave an empty file,
which reads as the initial policy, and a call that fails can have changed the
file that the other one wrote. -/
theorem rivals_break_file :
    let path := join "" "autoswitch.json"
    let first :=
      Policy.toJson { Policy.initial with targetGroup := "Streaming" }
    let second := Policy.initial.toJson
    let start := Rivals.start path [first, second] (Disk.blank ["srv"])
    let before := start.run [1, 1, 0, 0, 0, 0]
    let after := start.run [1, 1, 0, 0, 0, 0, 1, 1, 1]
    (start.run [0, 0, 0, 1, 1, 0]).disk.read path = .ok [] ∧
      interpret path Policy.ofJson? .initial (.ok []) = .ok .initial ∧
      before.disk.read path = .ok (Bytes.ofText first.pretty) ∧
      after.works[1]? =
        some
          (.done (.error (.files "No such file or directory (os error 2)"))) ∧
      after.disk.read path ≠ before.disk.read path := by
  intro path first second start before after
  have late := standsAt_late_filling first second
  have readAfter : after.disk.read path = .ok (Bytes.ofText second.pretty ++
      (Bytes.ofText first.pretty).drop (Bytes.ofText second.pretty).length) :=
    (congrArg (Disk.read · _) late.disk).trans (read_lone _)
  have readBefore : before.disk.read path = .ok (Bytes.ofText first.pretty) :=
    (congrArg (Disk.read · _) (standsAt_named first second).disk).trans
      (read_lone _)
  have failed : after.works[1]? =
      some (.done (.error (.files "No such file or directory (os error 2)"))) :=
    congrArg (·[1]?) late.works
  refine ⟨read_emptied_draft first second, rfl, readBefore, failed, ?_⟩
  rw [readAfter, readBefore, Ne, Except.ok.injEq]
  decide +kernel

end Switchyard.Store
