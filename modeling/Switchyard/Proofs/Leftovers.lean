import Switchyard.Proofs.Mishaps

/-!
# What is left in drafts

A draft that an earlier process left behind is emptied before it is used again,
and nobody reads it. So two disks that differ in their drafts only cannot be
told apart: the same writes with the same fortunes come to the same results on
both, and leave them with the same files.
-/

namespace Switchyard.Files.Disk

/-- What two disks have in a place where they show the same. -/
inductive SameKind (disk other : Disk) :
    Option Entry → Option Entry → Prop where
  | nothing : SameKind disk other none none
  | folder : SameKind disk other (some .folder) (some .folder)
  | brokenLink : SameKind disk other (some .brokenLink) (some .brokenLink)
  | file {number known : Nat} : other.content known = disk.content number →
    SameKind disk other (some (.file number)) (some (.file known))

section Same

variable {disk other : Disk} {place : Place}

theorem sameKind_of_sight? (same : other.sight? place = disk.sight? place) :
    SameKind disk other (disk.entryAt? place) (other.entryAt? place) := by
  unfold sight? at same
  cases found : disk.entryAt? place with
  | none =>
    rw [found, Option.map_none, Option.map_eq_none_iff] at same
    rw [same]
    exact .nothing
  | some entry =>
    rw [found, Option.map_some] at same
    obtain ⟨known, foundOther, shown⟩ := Option.map_eq_some_iff.1 same
    rw [foundOther]
    cases entry <;> cases known <;> simp only [sightOf, Sight.file.injEq,
      reduceCtorEq] at shown
    · exact .file shown
    · exact .folder
    · exact .brokenLink

/-- What the way to a place meets is seen on the way. -/
theorem obstacle?_congr {reached names : Place}
    (same : ∀ front, front <+: names → front ≠ names →
      other.sight? (reached ++ front) = disk.sight? (reached ++ front)) :
    other.obstacle? reached names = disk.obstacle? reached names := by
  induction names generalizing reached with
  | nil => rfl
  | cons name names namesFact =>
    cases names with
    | nil => rfl
    | cons next names =>
      have here := sameKind_of_sight? (same [name] (by simp) (by simp))
      have onward : other.obstacle? (reached ++ [name]) (next :: names) =
          disk.obstacle? (reached ++ [name]) (next :: names) := by
        refine namesFact fun front within proper => ?_
        have further :=
          same (name :: front) (List.cons_prefix_cons.2 ⟨rfl, within⟩)
            (fun whole => proper (List.cons.inj whole).2)
        simpa using further
      simp only [obstacle?, onward]
      generalize disk.entryAt? (reached ++ [name]) = found at here ⊢
      generalize other.entryAt? (reached ++ [name]) = found' at here ⊢
      cases here <;> rfl

theorem read_congr (working : other.working = disk.working) {path : String}
    (same : ∀ front, front <+: placeOf disk.working path →
      other.sight? front = disk.sight? front) :
    other.read path = disk.read path := by
  have way : other.reach path = disk.reach path := by
    rw [reach, reach, working,
      obstacle?_congr fun front within _ => same front within]
  rw [read, read, way]
  cases reached : disk.reach path with
  | error fault => rfl
  | ok found =>
    have whole : found = placeOf disk.working path := by
      rw [reach] at reached
      split at reached
      · cases reached
      · exact (Except.ok.inj reached).symm
    have here := sameKind_of_sight? (same found (whole ▸ List.prefix_rfl))
    simp only [bind, Except.bind]
    generalize disk.entryAt? found = known at here ⊢
    generalize other.entryAt? found = known' at here ⊢
    cases here with
    | file contents => exact congrArg Except.ok contents
    | _ => rfl

theorem sight?_put_folder (named : place ≠ []) (at' : Place) :
    (disk.put place .folder).sight? at' =
      if at' = place then some .folder else disk.sight? at' := by
  split
  · rename_i same
    rw [sight?_eq_folder_iff, entryAt?_put named, if_pos same]
  · rename_i apart
    exact sight?_congr (by rw [entryAt?_put named, if_neg apart]) fun _ _ => rfl

end Same

/-- Whether two disks show the same but for the drafts of some files in a place,
where each of them has a file or nothing, and what is below those. -/
structure AlikeButDrafts (home : Place) (names : List String)
    (disk other : Disk) : Prop where
  sound : disk.Sound
  soundOther : other.Sound
  working : other.working = disk.working
  vacant : ∀ name ∈ names, disk.IsVacant (home ++ [name ++ ".tmp"]) ∧
    other.IsVacant (home ++ [name ++ ".tmp"])
  elsewhere : ∀ place, (∀ name ∈ names, ¬ home ++ [name ++ ".tmp"] <+: place) →
    other.sight? place = disk.sight? place

section AlikeButDrafts

variable {disk other after afterOther : Disk} {home : Place}
  {names : List String} {name : String}

theorem AlikeButDrafts.makeAlong {reached steps : Place}
    (alike : AlikeButDrafts home names disk other)
    (off : ∀ front, front <+: steps → ∀ name ∈ names,
      ¬ home ++ [name ++ ".tmp"] <+: reached ++ front) :
    (Disk.makeAlong reached steps other).1 =
      (Disk.makeAlong reached steps disk).1 ∧
      AlikeButDrafts home names (Disk.makeAlong reached steps disk).2
        (Disk.makeAlong reached steps other).2 := by
  induction steps generalizing reached disk other with
  | nil => exact ⟨rfl, alike⟩
  | cons step steps stepsFact =>
    have offHere : ∀ name ∈ names,
        ¬ home ++ [name ++ ".tmp"] <+: reached ++ [step] :=
      off [step] (by simp)
    have offOnward : ∀ front, front <+: steps → ∀ name ∈ names,
        ¬ home ++ [name ++ ".tmp"] <+: reached ++ [step] ++ front := by
      intro front within name member
      have further :=
        off (step :: front) (List.cons_prefix_cons.2 ⟨rfl, within⟩) name member
      simpa using further
    have here :=
      sameKind_of_sight? (alike.elsewhere (reached ++ [step]) offHere)
    rw [Disk.makeAlong, Disk.makeAlong]
    cases found : disk.entryAt? (reached ++ [step]) with
    | none =>
      rw [found] at here
      cases foundOther : other.entryAt? (reached ++ [step]) with
      | some entry => rw [foundOther] at here; cases here
      | none =>
        have named : reached ++ [step] ≠ [] := by simp
        refine stepsFact ⟨(Grown.put_folder named found).sound alike.sound,
          (Grown.put_folder named foundOther).sound alike.soundOther,
          alike.working, fun name member => ?_, fun place aside => ?_⟩ offOnward
        · have apart : home ++ [name ++ ".tmp"] ≠ reached ++ [step] :=
            fun same => offHere name member (same ▸ List.prefix_rfl)
          obtain ⟨vacant, vacantOther⟩ := alike.vacant name member
          exact ⟨vacant.congr (by rw [sight?_put_folder named, if_neg apart]),
            vacantOther.congr (by rw [sight?_put_folder named, if_neg apart])⟩
        · rw [sight?_put_folder named, sight?_put_folder named,
            alike.elsewhere place aside]
    | some entry =>
      rw [found] at here
      cases foundOther : other.entryAt? (reached ++ [step]) with
      | none => rw [foundOther] at here; cases here
      | some known =>
        rw [foundOther] at here
        cases here with
        | folder => exact stepsFact alike offOnward
        | brokenLink => exact ⟨rfl, alike⟩
        | file contents => exact ⟨rfl, alike⟩

/-- What changes at a draft and below it only is not seen elsewhere. -/
theorem AlikeButDrafts.change (alike : AlikeButDrafts home names disk other)
    (member : name ∈ names) (sound : after.Sound)
    (soundOther : afterOther.Sound)
    (changed : Alike (home ++ [name ++ ".tmp"]) disk after)
    (changedOther : Alike (home ++ [name ++ ".tmp"]) other afterOther)
    (vacant : after.IsVacant (home ++ [name ++ ".tmp"]))
    (vacantOther : afterOther.IsVacant (home ++ [name ++ ".tmp"])) :
    AlikeButDrafts home names after afterOther where
  sound := sound
  soundOther := soundOther
  working := by rw [changedOther.working, changed.working, alike.working]
  vacant known member' := by
    by_cases same : known = name
    · rw [same]
      exact ⟨vacant, vacantOther⟩
    · have aside : ¬ home ++ [name ++ ".tmp"] <+:
          home ++ [known ++ ".tmp"] := by
        rw [Store.prefix_sibling_iff]
        intro equal
        exact same ((String.append_left_inj _).1 equal).symm
      obtain ⟨vacantBefore, vacantBeforeOther⟩ := alike.vacant known member'
      exact ⟨vacantBefore.congr (changed.elsewhere _ aside),
        vacantBeforeOther.congr (changedOther.elsewhere _ aside)⟩
  elsewhere place aside := by
    rw [changedOther.elsewhere place (aside name member),
      changed.elsewhere place (aside name member), alike.elsewhere place aside]

end AlikeButDrafts

end Switchyard.Files.Disk

namespace Switchyard.Store

open Files (Disk Fault Fortune IsPlain Place Work placeOf join turn told?
  undergo renames)
open Files.Disk (Alike AlikeButDrafts IsWritten)

/-! ## One write on two disks -/

/-- Whether two stages of writing are the same but for the number of the
draft. -/
inductive Drafting.Matches : Drafting → Drafting → Prop where
  | beginning : Matches .beginning .beginning
  | opening : Matches .opening .opening
  | filling (number known : Nat) : Matches (.filling number) (.filling known)
  | naming : Matches .naming .naming
  | dropping (fault : Fault) : Matches (.dropping fault) (.dropping fault)
  | ended (result : Except StoreError Unit) :
    Matches (.ended result) (.ended result)

/-- Where two writers have got to who write the same on disks that differ in
drafts only. -/
structure Twins (home : Place) (names : List String) (name : String)
    (bytes : Bytes) (stage stageOther : Drafting) (disk other : Disk) :
    Prop where
  stages : stage.Matches stageOther
  alike : AlikeButDrafts home names disk other
  fits : stage.Fits home name bytes disk
  fitsOther : stageOther.Fits home name bytes other

section Steps

variable {path name folder : String} {home : Place} {names : List String}
  {bytes : Bytes} {fortune : Fortune} {disk other after afterOther : Disk}
  {stage stageOther next nextOther : Drafting}
  {shown shownOther : Option (Routine.Exchange Files.Request.Answer)}

theorem alike_write {place : Place} {number : Nat} (sound : disk.Sound)
    (found : disk.entryAt? place = some (.file number)) (bytes : Bytes) :
    Alike place disk (disk.write number bytes) := by
  refine ⟨rfl, fun other aside =>
    Files.Disk.sight?_write (fun known => ?_) bytes⟩
  obtain rfl := sound.apart place other number found known
  exact aside List.prefix_rfl

theorem isVacant_of_entryAt? {place : Place} {number : Nat}
    (found : disk.entryAt? place = some (.file number)) : disk.IsVacant place :=
  Files.Disk.isVacant_of_sight? (Files.Disk.sight?_of_entryAt? found)

/-- With good fortune a draft is opened where the folder is there and nothing is
in its place. -/
theorem fault?_of_notOpened {fault : Fault} (opened : disk.IsOpen home)
    (vacant : disk.IsVacant (home ++ [name ++ ".tmp"]))
    (cause : fortune.fault? = some fault ∨ fortune = .serves ∧
      (disk.IsOpen home → ¬ disk.IsVacant (home ++ [name ++ ".tmp"]))) :
    fortune.fault? = some fault :=
  cause.resolve_right fun taken => taken.2 opened vacant

theorem Twins.opening
    (twins : Twins home names name bytes .opening .opening disk other)
    (member : name ∈ names)
    (stride : Stride path home name bytes fortune disk .opening
      shown next after)
    (strideOther :
      Stride path home name bytes fortune other .opening shownOther
        nextOther afterOther) :
    Twins home names name bytes next nextOther after afterOther := by
  obtain ⟨vacant, vacantOther⟩ := twins.alike.vacant name member
  have fits := stride.fits twins.alike.sound twins.fits
  have fitsOther := strideOther.fits twins.alike.soundOther twins.fitsOther
  cases stride with
  | opened served opened written =>
    cases strideOther with
    | opened servedOther openedOther writtenOther =>
      exact ⟨.filling _ _,
        twins.alike.change member written.sound writtenOther.sound written.alike
        writtenOther.alike (isVacant_of_entryAt? written.entry)
        (isVacant_of_entryAt? writtenOther.entry), fits, fitsOther⟩
    | notOpened fault cause =>
      have failed := fault?_of_notOpened twins.fitsOther vacantOther cause
      rw [served] at failed
      cases failed
  | notOpened fault cause =>
    have failed := fault?_of_notOpened twins.fits vacant cause
    cases strideOther with
    | opened served opened written =>
      rw [served] at failed
      cases failed
    | notOpened faultOther causeOther =>
      have failedOther :=
        fault?_of_notOpened twins.fitsOther vacantOther causeOther
      obtain rfl := Option.some.inj (failed.symm.trans failedOther)
      exact ⟨.ended _, twins.alike, fits, fitsOther⟩

theorem Twins.filling {number known : Nat}
    (twins : Twins home names name bytes (.filling number)
      (.filling known) disk other)
    (member : name ∈ names)
    (stride : Stride path home name bytes fortune disk (.filling number)
      shown next after)
    (strideOther :
      Stride path home name bytes fortune other (.filling known) shownOther
        nextOther afterOther) :
    Twins home names name bytes next nextOther after afterOther := by
  have fits := stride.fits twins.alike.sound twins.fits
  have fitsOther := strideOther.fits twins.alike.soundOther twins.fitsOther
  have found := twins.fits.2.1
  have foundOther := twins.fitsOther.2.1
  have alike (bytes : Bytes) :
      AlikeButDrafts home names (disk.write number bytes)
        (other.write known bytes) :=
    twins.alike.change member (twins.alike.sound.write number bytes)
      (twins.alike.soundOther.write known bytes)
      (alike_write twins.alike.sound found bytes)
      (alike_write twins.alike.soundOther foundOther bytes)
      (isVacant_of_entryAt? found) (isVacant_of_entryAt? foundOther)
  cases stride with
  | filled number served =>
    cases strideOther with
    | filled known servedOther => exact ⟨.naming, alike bytes, fits, fitsOther⟩
    | notFilled known done reason failed =>
      rw [served] at failed
      cases failed
  | notFilled number done reason failed =>
    cases strideOther with
    | filled known served =>
      rw [served] at failed
      cases failed
    | notFilled known doneOther reasonOther failedOther =>
      cases failed.symm.trans failedOther
      exact ⟨.ended _, alike _, fits, fitsOther⟩

/-- With good fortune a draft that is there is given the name, unless a folder
has it. -/
theorem fault?_or_folder_of_notNamed {fault : Fault}
    (fits : Drafting.naming.Fits home name bytes disk)
    (cause : fortune.fault? = some fault ∨ fortune = .serves ∧
      (disk.IsOpen home → disk.entryAt? (home ++ [name ++ ".tmp"]) = none ∨
        disk.sight? (home ++ [name]) = some .folder ∧ fault = .isFolder)) :
    fortune.fault? = some fault ∨ fortune = .serves ∧
      disk.sight? (home ++ [name]) = some .folder ∧ fault = .isFolder := by
  refine cause.imp_right fun taken =>
    ⟨taken.1, (taken.2 fits.1).resolve_left fun gone => ?_⟩
  have seen := fits.2
  rw [Files.Disk.sight?_eq_none_iff.2 gone] at seen
  cases seen

/-- Where both drafts are given the name, the file holds the same text on both
disks. -/
theorem Twins.alike_of_named
    (twins : Twins home names name bytes .naming .naming disk other)
    (member : name ∈ names) (aside : ∀ known ∈ names, known ++ ".tmp" ≠ name)
    (stride : Stride path home name bytes fortune disk .naming shown next after)
    (strideOther :
      Stride path home name bytes fortune other .naming shownOther
        nextOther afterOther)
    (named : shown.any Files.names = true)
    (namedOther : shownOther.any Files.names = true) :
    AlikeButDrafts home names after afterOther := by
  have naming := stride.naming twins.alike.sound named
  have namingOther := strideOther.naming twins.alike.soundOther namedOther
  have elsewhere {place : Place} (apart : ¬ home ++ [name ++ ".tmp"] <+: place)
      (different : place ≠ home ++ [name]) (off : ¬ place <+: home) :
      after.sight? place = disk.sight? place ∧
        afterOther.sight? place = other.sight? place :=
    ⟨stride.elsewhere twins.alike.sound apart different off (by simp),
      strideOther.elsewhere twins.alike.soundOther apart different
        off (by simp)⟩
  refine ⟨stride.sound twins.alike.sound,
    strideOther.sound twins.alike.soundOther, ?_,
    fun known among => ?_, fun place apart => ?_⟩
  · rw [stride.working, strideOther.working, twins.alike.working]
  · by_cases same : known = name
    · subst same
      exact ⟨Files.Disk.isVacant_of_nothing naming.draft,
        Files.Disk.isVacant_of_nothing namingOther.draft⟩
    · have apart : ¬ home ++ [name ++ ".tmp"] <+:
          home ++ [known ++ ".tmp"] := by
        rw [prefix_sibling_iff, String.append_left_inj]
        exact Ne.symm same
      have different : home ++ [known ++ ".tmp"] ≠ home ++ [name] := by
        simpa using aside known among
      obtain ⟨here, there⟩ := elsewhere apart different (not_prefix_self _ _)
      obtain ⟨vacant, vacantOther⟩ := twins.alike.vacant known among
      exact ⟨vacant.congr here, vacantOther.congr there⟩
  · by_cases target : place = home ++ [name]
    · rw [target, namingOther.target, naming.target, twins.fits.2,
        twins.fitsOther.2]
    · by_cases above : place <+: home
      · rw [stride.isOpen twins.alike.sound naming.opened place above,
          strideOther.isOpen twins.alike.soundOther
            namingOther.opened place above]
      · obtain ⟨here, there⟩ := elsewhere (apart name member) target above
        rw [here, there, twins.alike.elsewhere place apart]

theorem Twins.naming
    (twins : Twins home names name bytes .naming .naming disk other)
    (member : name ∈ names) (aside : ∀ known ∈ names, known ++ ".tmp" ≠ name)
    (stride : Stride path home name bytes fortune disk .naming shown next after)
    (strideOther :
      Stride path home name bytes fortune other .naming shownOther
        nextOther afterOther) :
    Twins home names name bytes next nextOther after afterOther := by
  have alike := twins.alike_of_named member aside stride strideOther
  have fits := stride.fits twins.alike.sound twins.fits
  have fitsOther := strideOther.fits twins.alike.soundOther twins.fitsOther
  have same : other.sight? (home ++ [name]) = disk.sight? (home ++ [name]) :=
    twins.alike.elsewhere _ fun known member within =>
      aside known member (prefix_sibling_iff.1 within)
  cases stride with
  | named served opened found free =>
    cases strideOther with
    | named servedOther openedOther foundOther freeOther =>
      exact ⟨.ended _, alike rfl rfl, fits, fitsOther⟩
    | notNamed fault cause =>
      rcases fault?_or_folder_of_notNamed twins.fitsOther cause with
        failed | ⟨-, folder, -⟩
      · rw [served] at failed
        cases failed
      · exact absurd (same.symm.trans folder) free
  | notNamed fault cause =>
    have failed := fault?_or_folder_of_notNamed twins.fits cause
    cases strideOther with
    | named served opened found free =>
      rcases failed with failed | ⟨-, folder, -⟩
      · rw [served] at failed
        cases failed
      · exact absurd (same.trans folder) free
    | notNamed faultOther causeOther =>
      have equal : fault = faultOther := by
        rcases failed with failed | ⟨served, -, rfl⟩ <;>
          rcases fault?_or_folder_of_notNamed twins.fitsOther causeOther with
            failedOther | ⟨servedOther, -, rfl⟩
        · exact Option.some.inj (failed.symm.trans failedOther)
        · rw [servedOther] at failed
          cases failed
        · rw [served] at failedOther
          cases failedOther
        · rfl
      subst equal
      exact ⟨.dropping _, twins.alike, fits, fitsOther⟩

theorem Twins.dropping {fault : Fault}
    (twins : Twins home names name bytes (.dropping fault)
      (.dropping fault) disk other)
    (member : name ∈ names)
    (stride : Stride path home name bytes fortune disk (.dropping fault)
      shown next after)
    (strideOther :
      Stride path home name bytes fortune other (.dropping fault) shownOther
        nextOther afterOther) :
    Twins home names name bytes next nextOther after afterOther := by
  have left {disk after : Disk}
      (vacant : disk.IsVacant (home ++ [name ++ ".tmp"]))
      (left : after = disk ∨ after = disk.drop (home ++ [name ++ ".tmp"])) :
      Alike (home ++ [name ++ ".tmp"]) disk after ∧
        after.IsVacant (home ++ [name ++ ".tmp"]) := by
    rcases left with rfl | rfl
    · exact ⟨⟨rfl, fun _ _ => rfl⟩, vacant⟩
    · refine ⟨⟨rfl, fun place aside => Files.Disk.sight?_drop (by simp) aside⟩,
        Files.Disk.isVacant_of_nothing ?_⟩
      rw [Files.Disk.sight?_eq_none_iff, Files.Disk.entryAt?_drop (by simp),
        if_pos List.prefix_rfl]
  obtain ⟨vacant, vacantOther⟩ := twins.alike.vacant name member
  have sound := stride.sound twins.alike.sound
  have soundOther := strideOther.sound twins.alike.soundOther
  cases stride with
  | dropped fault answer change =>
    cases strideOther with
    | dropped fault answerOther changeOther =>
      obtain ⟨changed, vacant⟩ := left vacant change
      obtain ⟨changedOther, vacantOther⟩ := left vacantOther changeOther
      exact ⟨.ended _,
        twins.alike.change member sound soundOther changed changedOther vacant
        vacantOther, trivial, trivial⟩

/-- Folders are made alike on both disks. -/
theorem Twins.beginning (plain : IsPlain name)
    (twins : Twins (placeOf disk.working folder) names name bytes .beginning
      .beginning disk other)
    (fortune : Fortune) :
    let state :=
      turn fortune (Drafting.beginning.rest (join folder name) bytes, disk)
    let stateOther :=
      turn fortune (Drafting.beginning.rest (join folder name) bytes, other)
    ∃ next nextOther, state.1 = Drafting.rest (join folder name) bytes next ∧
      stateOther.1 = Drafting.rest (join folder name) bytes nextOther ∧
      Twins (placeOf disk.working folder) names name bytes next nextOther
        state.2 stateOther.2 := by
  have toHome := plain.placeOf_parent?_join disk.working folder
  have toHomeOther :
      placeOf other.working ((Files.parent? (join folder name)).getD "") =
      placeOf disk.working folder := by
    rw [twins.alike.working, toHome]
  have off {steps : Place} (within : steps <+: placeOf disk.working folder)
      (front : Place) (front_within : front <+: steps) (known : String)
      (_ : known ∈ names) :
        ¬ placeOf disk.working folder ++ [known ++ ".tmp"] <+: [] ++ front :=
    fun below => not_prefix_self _ _ (below.trans (front_within.trans within))
  cases fortune with
  | serves =>
    have making := twins.alike.makeAlong (off List.prefix_rfl)
    have openAfter {start made : Disk} (toHome : placeOf start.working
        ((Files.parent? (join folder name)).getD "") =
          placeOf disk.working folder)
        (making : Files.Disk.makeAlong [] (placeOf disk.working folder) start =
          (.ok (), made)) :
        made.IsOpen (placeOf disk.working folder) := by
      rw [← toHome] at making
      exact Files.Disk.isOpen_of_makeFolders toHome making
    have openHere := @openAfter disk
    have openThere := @openAfter other
    simp only [Drafting.rest, beginDraft, Files.ask, Routine.call_bind, turn,
      Files.Disk.meet, Files.Disk.answer, Files.Disk.makeFolders,
      toHome, toHomeOther]
    generalize Files.Disk.makeAlong [] (placeOf disk.working folder) disk =
      here at *
    generalize Files.Disk.makeAlong [] (placeOf disk.working folder) other =
      there at *
    obtain ⟨given, made⟩ := here
    obtain ⟨givenOther, madeOther⟩ := there
    obtain ⟨rfl : givenOther = given, alike⟩ := making
    rcases givenOther with fault | ⟨⟩
    · exact ⟨.ended _, .ended _, rfl, rfl, .ended _, alike, trivial, trivial⟩
    · exact ⟨.opening, .opening, rfl, rfl, .opening, alike, openHere toHome rfl,
        openThere toHomeOther rfl⟩
  | breaksOff reason done =>
    obtain ⟨-, alike⟩ := twins.alike.makeAlong
      (off (List.take_prefix done (placeOf disk.working folder)))
    refine ⟨.ended _, .ended _, rfl, rfl, .ended _, ?_, trivial, trivial⟩
    change AlikeButDrafts _ _
      (Files.Disk.makeAlong [] ((placeOf disk.working _).take done) disk).2
      (Files.Disk.makeAlong [] ((placeOf other.working _).take done) other).2
    rw [toHome, toHomeOther]
    exact alike

/-- One step with the same fortune leads both writers to the same stage. -/
theorem Twins.step (plain : IsPlain name) (member : name ∈ names)
    (aside : ∀ known ∈ names, known ++ ".tmp" ≠ name)
    (twins : Twins (placeOf disk.working folder) names name bytes stage
      stageOther disk other)
    (fortune : Fortune) :
    let state := turn fortune (stage.rest (join folder name) bytes, disk)
    let stateOther :=
      turn fortune (stageOther.rest (join folder name) bytes, other)
    state.2.working = disk.working ∧ ∃ next nextOther,
      state.1 = Drafting.rest (join folder name) bytes next ∧
      stateOther.1 = Drafting.rest (join folder name) bytes nextOther ∧
      Twins (placeOf disk.working folder) names name bytes next nextOther
        state.2 stateOther.2 := by
  obtain ⟨vacant, vacantOther⟩ := twins.alike.vacant name member
  rw [← twins.alike.working] at vacantOther
  have leadsOn : LeadsOn folder name bytes fortune disk stage :=
    exists_stride plain twins.alike.sound (fun _ => vacant) bytes fortune
  have leadsOnOther : LeadsOn folder name bytes fortune other stageOther :=
    exists_stride plain twins.alike.soundOther
      (fun _ => vacantOther) bytes fortune
  obtain ⟨next, rest, stride⟩ := leadsOn
  obtain ⟨nextOther, restOther, strideOther⟩ := leadsOnOther
  rw [twins.alike.working] at strideOther
  refine ⟨stride.working, ?_⟩
  cases twins.stages with
  | beginning => exact twins.beginning plain fortune
  | opening =>
    exact ⟨_, _, rest, restOther, twins.opening member stride strideOther⟩
  | filling number known =>
    exact ⟨_, _, rest, restOther, twins.filling member stride strideOther⟩
  | naming =>
    exact ⟨_, _, rest, restOther, twins.naming member aside stride strideOther⟩
  | dropping fault =>
    exact ⟨_, _, rest, restOther, twins.dropping member stride strideOther⟩
  | ended result => exact ⟨_, _, rfl, rfl, twins⟩

/-- The same fortunes lead both writers to the same stage. -/
theorem exists_twins (plain : IsPlain name) (member : name ∈ names)
    (aside : ∀ known ∈ names, known ++ ".tmp" ≠ name) (fortunes : List Fortune)
    (there : placeOf disk.working folder = home)
    (twins : Twins home names name bytes stage stageOther disk other) :
    let state := undergo fortunes (stage.rest (join folder name) bytes, disk)
    let stateOther :=
      undergo fortunes (stageOther.rest (join folder name) bytes, other)
    ∃ next nextOther, state.1 = Drafting.rest (join folder name) bytes next ∧
      stateOther.1 = Drafting.rest (join folder name) bytes nextOther ∧
      Twins home names name bytes next nextOther state.2 stateOther.2 := by
  induction fortunes generalizing stage stageOther disk other with
  | nil => exact ⟨stage, stageOther, rfl, rfl, twins⟩
  | cons fortune later laterFact =>
    subst there
    obtain ⟨working, between, betweenOther, rest, restOther, further⟩ :=
      twins.step plain member aside fortune
    have onward := laterFact (by rw [working]) further
    rw [← rest, ← restOther] at onward
    exact onward

end Steps

/-! ## Whole writes on two disks -/

section Writes

variable {folder : Folder} {profile : Option String} {home : Place}
  {disk other : Disk} {fortunes : List Fortune}

/-- Whether two pieces of work have come equally far on two disks that differ in
the drafts of the files of a folder only: both are over with the same result, or
neither is over. -/
structure SameCourse (home : Place)
    (state stateOther : Work (Except StoreError Unit) × Disk) :
    Prop where
  alike : AlikeButDrafts home fileNames state.2 stateOther.2
  result : Files.result? stateOther.1 = Files.result? state.1

theorem sameCourse_writeDocument {folder name : String} (plain : IsPlain name)
    (member : name ∈ fileNames) (there : placeOf disk.working folder = home)
    (value : Json) (alike : AlikeButDrafts home fileNames disk other) :
    SameCourse home
      (undergo fortunes (writeDocument (join folder name) value, disk))
      (undergo fortunes (writeDocument (join folder name) value, other)) := by
  obtain ⟨stage, stageOther, rest, restOther, twins⟩ :=
    exists_twins plain member
      (fun known among => draft_ne_of_mem among member) fortunes there
      (⟨.beginning, alike, trivial, trivial⟩ :
        Twins home fileNames name (Bytes.ofText value.pretty) .beginning
          .beginning disk other)
  rw [← writeDocument_eq] at rest restOther twins
  refine ⟨twins.alike, ?_⟩
  rw [rest, restOther]
  have stages := twins.stages
  cases stages <;> rfl

/-- Nothing on the way to a file of the folder is a draft. -/
theorem read_of_alike (there : placeOf disk.working folder.path = home)
    (alike : AlikeButDrafts home fileNames disk other) {name : String}
    (plain : IsPlain name) (member : name ∈ fileNames) :
    other.read (join folder.path name) = disk.read (join folder.path name) := by
  refine Files.Disk.read_congr alike.working fun front within => ?_
  rw [plain.placeOf_join, there] at within
  refine alike.elsewhere front fun known among below => ?_
  exact draft_ne_of_mem among member (prefix_sibling_iff.1 (below.trans within))

theorem Write.sameCourse (there : placeOf disk.working folder.path = home)
    (alike : AlikeButDrafts home fileNames disk other) (write : Write) :
    SameCourse home (undergo fortunes (write.work folder profile, disk))
      (undergo fortunes (write.work folder profile, other)) := by
  cases write with
  | update policy =>
    exact sameCourse_writeDocument isPlain_policyName (by decide) there
      policy.toJson alike
  | record status =>
    exact sameCourse_writeDocument isPlain_statusName (by decide) there
      status.toJson alike
  | save selection =>
    rw [work_save]
    have saving (later : List Fortune)
        (loaded : Except StoreError SelectionMap) :
        SameCourse home (undergo later (saveWith folder selection loaded, disk))
          (undergo later (saveWith folder selection loaded, other)) := by
      cases loaded with
      | error error =>
        rw [saveWith, Files.undergo_done, Files.undergo_done]
        exact ⟨alike, rfl⟩
      | ok entries =>
        exact sameCourse_writeDocument isPlain_selectionsName
          (by decide) there _ alike
    cases fortunes with
    | nil => exact ⟨alike, rfl⟩
    | cons fortune later =>
      rw [Files.undergo_cons, Files.undergo_cons]
      cases fortune with
      | serves =>
        have same :=
          read_of_alike there alike isPlain_selectionsName (by decide)
        simp only [turn, Files.Disk.meet, Files.Disk.answer, same]
        exact saving later _
      | breaksOff reason done => exact saving later _

end Writes

section Histories

variable {folder : Folder} {profile : Option String} {disk other : Disk}

theorem Attempt.sameCourse
    (alike : AlikeButDrafts (placeOf disk.working folder.path)
      fileNames disk other)
    (attempt : Attempt) :
    SameCourse (placeOf disk.working folder.path)
      (attempt.state folder profile disk)
      (attempt.state folder profile other) :=
  attempt.write.sameCourse rfl alike

theorem Attempt.landed?_of_alike
    (alike : AlikeButDrafts (placeOf disk.working folder.path)
      fileNames disk other)
    (attempt : Attempt) :
    attempt.landed? folder profile other =
      attempt.landed? folder profile disk := by
  have course : SameCourse _ (attempt.state folder profile disk)
      (attempt.state folder profile other) :=
    attempt.sameCourse alike
  have text : attempt.write.text? folder other =
      attempt.write.text? folder disk := by
    cases attempt.write with
    | update policy => rfl
    | record status => rfl
    | save selection =>
      rw [Write.text?, Write.text?,
        read_of_alike rfl alike isPlain_selectionsName (by decide)]
  have renamed : attempt.renamed folder profile other =
      attempt.renamed folder profile disk := by
    rw [Bool.eq_iff_iff, attempt.renamed_iff alike.sound,
      attempt.renamed_iff alike.soundOther, course.result]
  rw [landed?, landed?, text, renamed]

theorem afterAll_of_alike
    (alike : AlikeButDrafts (placeOf disk.working folder.path)
      fileNames disk other)
    (history : List Attempt) :
    AlikeButDrafts (placeOf disk.working folder.path) fileNames
        (Attempt.afterAll folder profile history disk)
        (Attempt.afterAll folder profile history other) ∧
      Attempt.landed folder profile history other =
        Attempt.landed folder profile history disk := by
  induction history generalizing disk other with
  | nil => exact ⟨alike, rfl⟩
  | cons attempt later laterFact =>
    have course : SameCourse _ (attempt.state folder profile disk)
      (attempt.state folder profile other) := attempt.sameCourse alike
    have there : (attempt.state folder profile disk).2.working = disk.working :=
      (attempt.undergone alike.sound).working
    rw [← there] at course
    obtain ⟨onward, texts⟩ := laterFact course.alike
    rw [there] at onward
    refine ⟨onward, ?_⟩
    rw [Attempt.landed, Attempt.landed, attempt.landed?_of_alike alike, texts]

/-- A write that fails leaves all files alone in each of its steps. -/
theorem Attempt.spared_of_error (sound : disk.Sound) {attempt : Attempt}
    {error : StoreError}
    (failed : Files.result? (attempt.state folder profile disk).1 =
      some (.error error))
    (count : Nat) {name : String} (member : name ∈ fileNames) :
    (Attempt.state folder profile ⟨attempt.write, attempt.fortunes.take count⟩
        disk).2.sight? (placeOf disk.working folder.path ++ [name]) =
      disk.sight? (placeOf disk.working folder.path ++ [name]) := by
  let begun : Attempt := ⟨attempt.write, attempt.fortunes.take count⟩
  have unnamed : begun.renamed folder profile disk = false := by
    by_contra named
    have ended :=
      (begun.renamed_iff sound).1 (Bool.eq_true_of_not_eq_false named)
    have onward : attempt.state folder profile disk =
        undergo (attempt.fortunes.drop count)
          (begun.state folder profile disk) := by
      rw [state, state, ← Files.undergo_append, List.take_append_drop]
    rw [onward, Files.result?_undergo _ ended] at failed
    cases failed
  have shown : (begun.state folder profile disk).2.sight? _ = _ :=
    begun.sight?_state sound member
  rwa [landed?, unnamed] at shown

/-- Whatever mishaps there were, at every moment each file holds the text that
was put there last, or what it held at first. A write that fails, on selections
that cannot be read too, leaves the files alone, and what else was in drafts at
first makes no difference to anything that is read or written later. -/
theorem files_keep_latest_text (folder : Folder)
    (profile : Option String) {disk : Disk} (sound : disk.Sound)
    (history : List Attempt) :
    let home := placeOf disk.working folder.path
    let after := Attempt.afterAll folder profile history disk
    (∀ name ∈ fileNames, after.sight? (home ++ [name]) =
      ((latestText? name (Attempt.landed folder profile history disk)).map
          shownText).or
        (disk.sight? (home ++ [name]))) ∧
    (∀ (attempt : Attempt) (error : StoreError),
      Files.result? (attempt.state folder profile after).1 =
        some (.error error) →
      ∀ count, ∀ name ∈ fileNames,
        (Attempt.state folder profile ⟨attempt.write,
            attempt.fortunes.take count⟩ after).2.sight?
          (home ++ [name]) = after.sight? (home ++ [name])) ∧
    (∀ (selection : Selection) (error : StoreError),
      Write.selections folder
        (after.read (join folder.path "selections.json")) = .error error →
      ∀ later,
        Attempt.state folder profile ⟨.save selection, .serves :: later⟩ after =
          (.done (.error error), after)) ∧
    ∀ other, AlikeButDrafts home fileNames disk other →
      let afterOther := Attempt.afterAll folder profile history other
      Attempt.landed folder profile history other =
        Attempt.landed folder profile history disk ∧
      (∀ name ∈ fileNames,
        afterOther.read (join folder.path name) =
          after.read (join folder.path name)) ∧
      ∀ attempt : Attempt,
        Files.result? (attempt.state folder profile afterOther).1 =
        Files.result? (attempt.state folder profile after).1 := by
  intro home after
  obtain ⟨soundAfter, working, shown⟩ : after.Sound ∧ _ ∧ _ :=
    sight?_afterAll sound history
  have there : placeOf after.working folder.path = home := by rw [working]
  refine ⟨shown, fun attempt error failed count name member => ?_,
    fun selection error corrupt later => ?_, fun other alike => ?_⟩
  · have spared := Attempt.spared_of_error soundAfter failed count member
    rwa [there] at spared
  · rw [Attempt.state, Write.work_save, Files.undergo_cons]
    simp only [turn, Files.Disk.meet, Files.Disk.answer, corrupt,
      Write.saveWith, Files.undergo_done]
  · obtain ⟨alikeAfter, texts⟩ := afterAll_of_alike alike history
    refine ⟨texts, fun name member => ?_, fun attempt => ?_⟩
    · have plain : IsPlain name := by
        simp only [fileNames, List.mem_cons, List.not_mem_nil, or_false]
          at member
        rcases member with rfl | rfl | rfl
        · exact isPlain_policyName
        · exact isPlain_statusName
        · exact isPlain_selectionsName
      exact read_of_alike there alikeAfter plain member
    · have onward : AlikeButDrafts (placeOf after.working folder.path)
          fileNames after (Attempt.afterAll folder profile history other) := by
            rwa [there]
      exact (attempt.sameCourse onward).result

/-- A policy is written on an empty disk and on one on which a draft of three
bytes was left. -/
theorem policy_kept_despite_draft :
    let disk := Disk.blank ["srv"]
    let other : Disk :=
      ⟨[(["srv"], .folder), (["srv", "autoswitch.json.tmp"], .file 0)],
        [[123, 10, 32]], ["srv"]⟩
    let history : List Attempt := [⟨.update .initial, List.replicate 4 .serves⟩]
    disk.Sound ∧ AlikeButDrafts ["srv"] fileNames disk other ∧
      (Attempt.afterAll ⟨""⟩ none history disk).sight?
          ["srv", "autoswitch.json"] =
        some (shownText Policy.initial.toJson.pretty) ∧
      (Attempt.afterAll ⟨""⟩ none history other).read
        (join "" "autoswitch.json") =
          (Attempt.afterAll ⟨""⟩ none history disk).read
            (join "" "autoswitch.json") := by
  intro disk other history
  have sound : disk.Sound := Files.Disk.sound_blank _
  have nothing (name : String) : disk.sight? (["srv"] ++ [name]) = none := rfl
  have vacant (name : String) : disk.IsVacant (["srv"] ++ [name]) :=
    Files.Disk.isVacant_of_nothing (nothing name)
  have home : placeOf disk.working "" = ["srv"] := Files.placeOf_empty _
  have free : disk.entryAt? ["srv", "autoswitch.json.tmp"] = none := rfl
  have left : IsWritten disk other ["srv", "autoswitch.json.tmp"] 0
      [123, 10, 32] :=
    (sound.isWritten_new (by decide) free).write [123, 10, 32]
  have among : "autoswitch.json" ∈ fileNames := by decide
  have same : AlikeButDrafts ["srv"] fileNames disk disk :=
    ⟨sound, sound, rfl, fun name _ => ⟨vacant _, vacant _⟩, fun _ _ => rfl⟩
  have alike : AlikeButDrafts ["srv"] fileNames disk other :=
    same.change among sound left.sound ⟨rfl, fun _ _ => rfl⟩ left.alike
      (vacant _) (isVacant_of_entryAt? left.entry)
  have reachable : disk.IsReachable ["srv"] := rfl
  obtain ⟨shown, -, -, leftovers⟩ :=
    files_keep_latest_text ⟨""⟩ none sound history
  obtain ⟨-, reads, -⟩ := leftovers other (home.symm ▸ alike)
  refine ⟨sound, alike, ?_, reads "autoswitch.json" (by decide)⟩
  have renamed : Attempt.renamed ⟨""⟩ none ⟨.update .initial,
      List.replicate 4 .serves⟩ disk = true := by
    refine (Attempt.renamed_iff sound _).2
      (result?_writeDocument isPlain_policyName sound ?_ _)
    exact home.symm ▸ ⟨reachable, vacant _, (vacant "autoswitch.json").1⟩
  have landed : Attempt.landed ⟨""⟩ none history disk =
      [("autoswitch.json", Policy.initial.toJson.pretty)] := by
    simp only [history, Attempt.landed, Attempt.landed?, renamed, if_true,
      Write.text?, Write.name]
    rfl
  have here := shown "autoswitch.json" (by decide)
  rw [landed] at here
  rw [home] at here
  exact here

end Histories

end Switchyard.Store
