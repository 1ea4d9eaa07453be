import Switchyard.Files.Disk

/-!
# What the steps of a disk change

What is seen at a place is a file with its bytes, a folder or a link. On a disk
where every file has a content of its own, each step changes what is seen at the
places that it is about and nowhere else.
-/

namespace Switchyard.Files

/-- What is seen at a place. -/
inductive Sight where
  | file (bytes : Bytes)
  | folder
  | brokenLink
deriving DecidableEq, Repr

namespace Disk

def sightOf (disk : Disk) : Entry → Sight
  | .file number => .file (disk.content number)
  | .folder => .folder
  | .brokenLink => .brokenLink

def sight? (disk : Disk) (place : Place) : Option Sight :=
  (disk.entryAt? place).map disk.sightOf

/-- Whether the way to a place leads through folders and the place is one
itself. -/
def IsOpen (disk : Disk) (place : Place) : Prop :=
  ∀ front, front <+: place → disk.sight? front = some .folder

/-- Whether every file has a content, and no other file has the same one. -/
structure Sound (disk : Disk) : Prop where
  stored : ∀ place number, disk.entryAt? place = some (.file number) →
    number < disk.contents.length
  apart : ∀ place other number, disk.entryAt? place = some (.file number) →
    disk.entryAt? other = some (.file number) → place = other

section Looking

variable {disk : Disk} {place : Place}

@[simp]
theorem entryAt?_nil (disk : Disk) : disk.entryAt? [] = some .folder := rfl

@[simp]
theorem sight?_nil (disk : Disk) : disk.sight? [] = some .folder := rfl

theorem sight?_of_entryAt? {entry : Entry}
    (found : disk.entryAt? place = some entry) :
    disk.sight? place = some (disk.sightOf entry) := by
  rw [sight?, found, Option.map_some]

@[simp]
theorem sight?_eq_none_iff :
    disk.sight? place = none ↔ disk.entryAt? place = none :=
  Option.map_eq_none_iff

@[simp]
theorem sight?_eq_folder_iff :
    disk.sight? place = some .folder ↔ disk.entryAt? place = some .folder := by
  unfold sight?
  cases disk.entryAt? place with
  | none => simp
  | some entry => cases entry <;> simp [sightOf]

theorem sight?_eq_file_iff {bytes : Bytes} :
    disk.sight? place = some (.file bytes) ↔
      ∃ number, disk.entryAt? place = some (.file number) ∧
        disk.content number = bytes := by
  unfold sight?
  cases disk.entryAt? place with
  | none => simp
  | some entry => cases entry <;> simp [sightOf]

/-- Only files are seen differently when other contents change. -/
theorem sight?_congr {after : Disk}
    (entries : after.entryAt? place = disk.entryAt? place)
    (contents : ∀ number, disk.entryAt? place = some (.file number) →
      after.content number = disk.content number) : after.sight? place =
        disk.sight? place := by
  rw [sight?, sight?, entries]
  cases found : disk.entryAt? place with
  | none => rfl
  | some entry =>
    cases entry with
    | file number => simp [sightOf, contents number found]
    | folder => rfl
    | brokenLink => rfl

theorem obstacle?_cons {reached names : Place} {name : String}
    (more : names ≠ []) :
    disk.obstacle? reached (name :: names) = none ↔
      disk.entryAt? (reached ++ [name]) = some .folder ∧
        disk.obstacle? (reached ++ [name]) names = none := by
  obtain ⟨next, later, rfl⟩ := List.exists_cons_of_ne_nil more
  rw [obstacle?]
  · cases disk.entryAt? (reached ++ [name]) with
    | none => simp
    | some entry => cases entry <;> simp
  · exact more

theorem obstacle?_eq_none_iff {reached names : Place} {last : String} :
    disk.obstacle? reached (names ++ [last]) = none ↔
      ∀ front, front <+: names → front ≠ [] →
        disk.entryAt? (reached ++ front) = some .folder := by
  induction names generalizing reached with
  | nil => simp [obstacle?]
  | cons name names namesFact =>
    rw [List.cons_append,
      obstacle?_cons (List.append_ne_nil_of_right_ne_nil _ (by simp)),
      namesFact]
    constructor
    · rintro ⟨here, onward⟩ front within nonempty
      obtain ⟨first, front, rfl⟩ := List.exists_cons_of_ne_nil nonempty
      obtain ⟨rfl, below⟩ := List.cons_prefix_cons.1 within
      by_cases only : front = []
      · rwa [only]
      · simpa using onward front below only
    · intro folders
      refine ⟨folders [name] (by simp) (by simp), fun front below _ => ?_⟩
      simpa using folders (name :: front) (List.cons_prefix_cons.2 ⟨rfl, below⟩)
        (by simp)

theorem obstacle?_eq_none_iff_isOpen {home : Place} {name : String} :
    disk.obstacle? [] (home ++ [name]) = none ↔ disk.IsOpen home := by
  rw [obstacle?_eq_none_iff]
  constructor
  · intro folders front within
    by_cases top : front = []
    · rw [top, sight?_nil]
    · exact sight?_eq_folder_iff.2 (folders front within top)
  · exact fun opened front within _ =>
      sight?_eq_folder_iff.1 (opened front within)

section Named

variable {path : String} {home : Place} {name : String}

theorem reach_of_isOpen (leads : placeOf disk.working path = home ++ [name])
    (opened : disk.IsOpen home) : disk.reach path = .ok (home ++ [name]) := by
  rw [reach, leads, obstacle?_eq_none_iff_isOpen.2 opened]

theorem isOpen_of_reach (leads : placeOf disk.working path = home ++ [name])
    (reached : disk.reach path = .ok place) :
    place = home ++ [name] ∧ disk.IsOpen home := by
  rw [reach, leads] at reached
  cases way : disk.obstacle? [] (home ++ [name]) with
  | none =>
    rw [way] at reached
    exact ⟨(Except.ok.inj reached).symm, obstacle?_eq_none_iff_isOpen.1 way⟩
  | some fault =>
    rw [way] at reached
    cases reached

/-- What reading gives where nothing is in the way. -/
theorem read_of_isOpen (leads : placeOf disk.working path = home ++ [name])
    (opened : disk.IsOpen home) :
    disk.read path =
      match disk.sight? (home ++ [name]) with
      | some (.file bytes) => .ok bytes
      | some .folder => .error .isFolder
      | _ => .error .notFound := by
  rw [read, reach_of_isOpen leads opened, sight?]
  simp only [bind, Except.bind]
  cases disk.entryAt? (home ++ [name]) with
  | none => rfl
  | some entry => cases entry <;> rfl

end Named

end Looking

/-- Whether one disk is another with some folders added. -/
structure Grown (disk after : Disk) : Prop where
  working : after.working = disk.working
  contents : after.contents = disk.contents
  entries : ∀ place, after.entryAt? place = disk.entryAt? place ∨
    disk.entryAt? place = none ∧ after.entryAt? place = some .folder

theorem Grown.refl (disk : Disk) : Grown disk disk :=
  ⟨rfl, rfl, fun _ => .inl rfl⟩

theorem Grown.trans {disk between after : Disk} (former : Grown disk between)
    (latter : Grown between after) : Grown disk after := by
  refine ⟨latter.working.trans former.working,
    latter.contents.trans former.contents, ?_⟩
  intro place
  rcases latter.entries place with same | ⟨free, made⟩
  · rw [same]
    exact former.entries place
  · rcases former.entries place with same | ⟨free', made'⟩
    · exact .inr ⟨same ▸ free, made⟩
    · exact .inr ⟨free', made⟩

theorem Grown.put_folder {disk : Disk} {place : Place} (named : place ≠ [])
    (free : disk.entryAt? place = none) :
    Grown disk (disk.put place .folder) := by
  refine ⟨rfl, rfl, fun other => ?_⟩
  rw [entryAt?_put named]
  by_cases same : other = place
  · rw [if_pos same, same]
    exact .inr ⟨free, rfl⟩
  · rw [if_neg same]
    exact .inl rfl

theorem Grown.sound {disk after : Disk} (grown : Grown disk after)
    (sound : disk.Sound) :
    after.Sound := by
  have file {place : Place} {number : Nat}
      (found : after.entryAt? place = some (.file number)) :
      disk.entryAt? place = some (.file number) := by
    rcases grown.entries place with same | ⟨-, made⟩
    · exact same ▸ found
    · rw [made] at found
      cases found
  refine ⟨fun place number found => ?_,
    fun place other number found found' => ?_⟩
  · rw [grown.contents]
    exact sound.stored place number (file found)
  · exact sound.apart place other number (file found) (file found')

theorem grown_makeAlong (reached names : Place) (disk : Disk) :
    Grown disk (makeAlong reached names disk).2 := by
  induction names generalizing reached disk with
  | nil => exact .refl disk
  | cons name names namesFact =>
    rw [makeAlong]
    split
    · exact namesFact _ _
    · rename_i free
      exact (Grown.put_folder (by simp) free).trans (namesFact _ _)
    · exact .refl disk

/-- On a disk without files there are no two files with one content. -/
theorem sound_blank (working : Place) : (blank working).Sound := by
  have bare : (⟨[], [], working⟩ : Disk).Sound := by
    have nothing {place : Place} {number : Nat} :
        (⟨[], [], working⟩ : Disk).entryAt? place ≠ some (.file number) := by
      unfold entryAt?
      cases place with
      | nil => nofun
      | cons name names => nofun
    exact ⟨fun _ _ found => absurd found nothing,
      fun _ _ _ found => absurd found nothing⟩
  exact (grown_makeAlong [] working _).sound bare

theorem Grown.isFolder {disk after : Disk} (grown : Grown disk after)
    {place : Place} (folder : disk.entryAt? place = some .folder) :
    after.entryAt? place = some .folder := by
  rcases grown.entries place with same | ⟨-, made⟩
  · exact same.trans folder
  · exact made

theorem isFolder_of_makeAlong {reached names : Place} {disk after : Disk}
    (made : makeAlong reached names disk = (.ok (), after)) {front : Place}
    (within : front <+: names) (nonempty : front ≠ []) :
    after.entryAt? (reached ++ front) = some .folder := by
  induction names generalizing reached disk front with
  | nil => exact absurd (List.prefix_nil.1 within) nonempty
  | cons name names namesFact =>
    obtain ⟨first, front, rfl⟩ := List.exists_cons_of_ne_nil nonempty
    obtain ⟨rfl, below⟩ := List.cons_prefix_cons.1 within
    -- The folder at the first name is there or is made, and stays one while the
    -- others are made.
    obtain ⟨before, onward, here⟩ : ∃ before,
        makeAlong (reached ++ [first]) names before = (.ok (), after) ∧
        before.entryAt? (reached ++ [first]) = some .folder := by
      rw [makeAlong] at made
      split at made
      · rename_i folder
        exact ⟨disk, made, folder⟩
      · refine ⟨_, made, ?_⟩
        rw [entryAt?_put (by simp), if_pos rfl]
      · cases made
    by_cases only : front = []
    · have grown := grown_makeAlong (reached ++ [first]) names before
      rw [onward] at grown
      rw [only]
      exact grown.isFolder here
    · simpa using namesFact onward below only

theorem entryAt?_makeAlong_of_aside {reached names other : Place}
    (aside : ¬ other <+: reached ++ names) (disk : Disk) :
    (makeAlong reached names disk).2.entryAt? other = disk.entryAt? other := by
  induction names generalizing reached disk with
  | nil => rfl
  | cons name names namesFact =>
    have aside' : ¬ other <+: reached ++ [name] ++ names := by
      rwa [List.append_assoc, List.singleton_append]
    rw [makeAlong]
    split
    · exact namesFact aside' disk
    · rw [namesFact aside', entryAt?_put (by simp), if_neg]
      rintro rfl
      exact aside' (List.prefix_append _ _)
    · rfl

theorem makeAlong_of_folders {reached names : Place} {disk : Disk}
    (folders : ∀ front, front <+: names → front ≠ [] →
      disk.entryAt? (reached ++ front) = some .folder) :
    makeAlong reached names disk = (.ok (), disk) := by
  induction names generalizing reached with
  | nil => rfl
  | cons name names namesFact =>
    rw [makeAlong, folders [name] (by simp) (by simp)]
    refine namesFact fun front below _ => ?_
    simpa using
      folders (name :: front) (List.cons_prefix_cons.2 ⟨rfl, below⟩) (by simp)

section MakeFolders

variable {disk after : Disk} {path : String} {home : Place}

theorem grown_makeFolders (disk : Disk) (path : String) :
    Grown disk (disk.makeFolders path).2 :=
  grown_makeAlong _ _ _

theorem isOpen_of_makeFolders (leads : placeOf disk.working path = home)
    (made : disk.makeFolders path = (.ok (), after)) : after.IsOpen home := by
  rw [makeFolders, leads] at made
  intro front within
  by_cases top : front = []
  · rw [top, sight?_nil]
  · exact sight?_eq_folder_iff.2 (isFolder_of_makeAlong made within top)

theorem makeFolders_of_isOpen (leads : placeOf disk.working path = home)
    (opened : disk.IsOpen home) : disk.makeFolders path = (.ok (), disk) := by
  rw [makeFolders, leads]
  exact makeAlong_of_folders fun front within _ =>
    sight?_eq_folder_iff.1 (opened front within)

theorem sight?_makeFolders_of_aside (leads : placeOf disk.working path = home)
    (other : Place) (aside : ¬ other <+: home) :
    (disk.makeFolders path).2.sight? other = disk.sight? other := by
  refine sight?_congr ?_ fun number _ => ?_
  · rw [makeFolders, leads]
    exact entryAt?_makeAlong_of_aside aside disk
  · rw [content, content, (grown_makeFolders disk path).contents]

end MakeFolders

/-! ## Writing files -/

/-- Whether two disks show the same but for what is at one place and below
it. -/
structure Alike (place : Place) (disk after : Disk) : Prop where
  working : after.working = disk.working
  elsewhere : ∀ other,
    ¬ place <+: other → after.sight? other = disk.sight? other

/-- Whether a file is open for writing at a place where all else is as on some
disk. -/
structure IsWritten (disk after : Disk) (place : Place) (number : Nat)
    (bytes : Bytes) : Prop where
  sound : after.Sound
  entry : after.entryAt? place = some (.file number)
  content : after.content number = bytes
  alike : Alike place disk after

section Writing

variable {disk after : Disk} {path : String} {home place : Place}
  {name : String} {number : Nat}

theorem Alike.trans {between : Disk} (former : Alike place disk between)
    (latter : Alike place between after) : Alike place disk after :=
  ⟨latter.working.trans former.working, fun other aside =>
    (latter.elsewhere other aside).trans (former.elsewhere other aside)⟩

/-- A file that is there gets other bytes. -/
theorem Sound.isWritten_set (sound : disk.Sound)
    (found : disk.entryAt? place = some (.file number)) (bytes : Bytes) :
    IsWritten disk { disk with contents := disk.contents.set number bytes }
      place number bytes where
  sound :=
    ⟨fun other known file =>
      by simpa using sound.stored other known file, sound.apart⟩
  entry := found
  content := by simp [Disk.content, sound.stored place number found]
  alike := by
    refine ⟨rfl, fun other aside => sight?_congr rfl fun known file => ?_⟩
    have apart : number ≠ known := by
      rintro rfl
      obtain rfl := sound.apart place other number found file
      exact aside List.prefix_rfl
    simp [Disk.content, List.getElem?_set_ne apart]

/-- A file comes about where nothing was. -/
theorem Sound.isWritten_new (sound : disk.Sound) (named : place ≠ [])
    (free : disk.entryAt? place = none) :
    IsWritten disk { disk.put place (.file disk.contents.length) with
      contents := disk.contents ++ [[]] } place disk.contents.length [] := by
  have entries (other : Place) :
      ({ disk.put place (.file disk.contents.length) with
        contents := disk.contents ++ [[]] } : Disk).entryAt? other =
          if other = place then some (.file disk.contents.length)
          else disk.entryAt? other :=
    entryAt?_put named _ disk other
  refine ⟨⟨fun other known file => ?_, fun one other known file file' => ?_⟩,
    ?_, ?_, rfl, fun other aside => ?_⟩
  · rw [entries] at file
    simp only [List.length_append, List.length_singleton]
    split at file
    · obtain rfl : disk.contents.length = known := by simpa using file
      omega
    · exact Nat.lt_succ_of_lt (sound.stored other known file)
  · rw [entries] at file file'
    split at file <;> split at file'
    · rename_i same same'
      rw [same, same']
    · obtain rfl : disk.contents.length = known := by simpa using file
      exact absurd (sound.stored other _ file') (Nat.lt_irrefl _)
    · obtain rfl : disk.contents.length = known := by simpa using file'
      exact absurd (sound.stored one _ file) (Nat.lt_irrefl _)
    · exact sound.apart one other known file file'
  · rw [entries, if_pos rfl]
  · simp [Disk.content]
  · have different : other ≠ place := by
      rintro rfl
      exact aside List.prefix_rfl
    refine sight?_congr ((entries other).trans (if_neg different))
      fun known file => ?_
    simp [Disk.content,
      List.getElem?_append_left (sound.stored other known file)]

theorem Sound.isWritten_truncate (sound : disk.Sound)
    (leads : placeOf disk.working path = home ++ [name])
    (opened : disk.truncate path = (.ok number, after)) :
    disk.IsOpen home ∧ IsWritten disk after (home ++ [name]) number [] := by
  unfold truncate at opened
  split at opened
  · cases opened
  · rename_i reached way
    obtain ⟨rfl, folders⟩ := isOpen_of_reach leads way
    split at opened
    · rename_i known found
      cases opened
      exact ⟨folders, sound.isWritten_set found []⟩
    · cases opened
    · cases opened
    · rename_i free
      cases opened
      exact ⟨folders, sound.isWritten_new (by simp) free⟩

/-- A file that was emptied holds the bytes that are written. -/
theorem IsWritten.write (written : IsWritten disk after place number [])
    (bytes : Bytes) :
    IsWritten disk (after.write number bytes) place number bytes := by
  have further := written.sound.isWritten_set written.entry bytes
  rw [Disk.write, written.content, List.drop_nil, List.append_nil]
  exact ⟨further.sound, further.entry, further.content,
    written.alike.trans further.alike⟩

/-- Emptying that fails changes nothing. -/
theorem truncate_of_error {fault : Fault}
    (refused : disk.truncate path = (.error fault, after)) :
    after = disk := by
  unfold truncate at refused
  split at refused
  · exact (Prod.mk.inj refused).2.symm
  · split at refused
    · cases refused
    · exact (Prod.mk.inj refused).2.symm
    · exact (Prod.mk.inj refused).2.symm
    · cases refused

/-- Emptying fails only where there is no way, or a folder or a link. -/
theorem truncate_error {fault : Fault}
    (leads : placeOf disk.working path = home ++ [name])
    (refused : disk.truncate path = (.error fault, after)) :
    after = disk ∧
      (disk.IsOpen home → disk.sight? (home ++ [name]) = some .folder ∨
      disk.sight? (home ++ [name]) = some .brokenLink) := by
  refine ⟨truncate_of_error refused, fun opened => ?_⟩
  rw [truncate, reach_of_isOpen leads opened] at refused
  simp only at refused
  split at refused
  · cases refused
  · next found => exact .inl (sight?_of_entryAt? found)
  · next found => exact .inr (sight?_of_entryAt? found)
  · cases refused

end Writing

theorem lookup_filter_of_forall {place : Place} {keeps : Place × Entry → Bool}
    (kept : ∀ entry, keeps (place, entry) = true)
    (entries : List (Place × Entry)) :
    (entries.filter keeps).lookup place = entries.lookup place := by
  induction entries with
  | nil => rfl
  | cons listed rest restFact =>
    obtain ⟨known, entry⟩ := listed
    by_cases same : place = known
    · subst same
      rw [List.filter_cons_of_pos (kept entry), List.lookup_cons_self,
        List.lookup_cons_self]
    · have skipped : ((known, entry) :: rest).lookup place =
          rest.lookup place := by
        rw [List.lookup_cons, beq_eq_false_iff_ne.2 same]
      rw [skipped, List.filter_cons]
      split
      · rw [List.lookup_cons, beq_eq_false_iff_ne.2 same]
        exact restFact
      · exact restFact

theorem entryAt?_drop {place : Place} (named : place ≠ []) (disk : Disk)
    (other : Place) :
    (disk.drop place).entryAt? other =
      if place <+: other then none else disk.entryAt? other := by
  by_cases top : other = []
  · subst top
    rw [if_neg (mt List.prefix_nil.1 named)]
    rfl
  · unfold entryAt? drop
    simp only [List.isEmpty_iff, top, if_false]
    by_cases below : place <+: other
    · rw [if_pos below, List.lookup_eq_none_iff]
      intro listed member
      rw [List.mem_filter] at member
      rw [bne_iff_ne]
      rintro rfl
      simp [List.isPrefixOf_iff_prefix.2 below] at member
    · rw [if_neg below]
      refine lookup_filter_of_forall (fun entry => ?_) _
      rw [Bool.not_eq_true', Bool.eq_false_iff]
      exact mt List.isPrefixOf_iff_prefix.1 below

section Naming

variable {disk after : Disk} {source target : String}
  {home place old new : Place} {name draft : String} {number : Nat}
  {bytes : Bytes}

theorem rename_of_file
    (fromDraft : placeOf disk.working source = home ++ [draft])
    (leads : placeOf disk.working target = home ++ [name])
    (opened : disk.IsOpen home)
    (found : disk.entryAt? (home ++ [draft]) = some (.file number)) :
    disk.rename source target =
      if disk.sight? (home ++ [name]) = some .folder then
        (.error .isFolder, disk)
      else
        (.ok (), (disk.drop (home ++ [draft])).put (home ++ [name])
          (.file number)) := by
  rw [rename, reach_of_isOpen fromDraft opened, reach_of_isOpen leads opened]
  simp only [found, sight?_eq_folder_iff]
  cases disk.entryAt? (home ++ [name]) with
  | none => rfl
  | some entry => cases entry <;> rfl

theorem rename_of_nothing
    (fromDraft : placeOf disk.working source = home ++ [draft])
    (leads : placeOf disk.working target = home ++ [name])
    (opened : disk.IsOpen home)
    (gone : disk.entryAt? (home ++ [draft]) = none) :
    disk.rename source target = (.error .notFound, disk) := by
  rw [rename, reach_of_isOpen fromDraft opened, reach_of_isOpen leads opened]
  simp only [gone]

/-- A file takes another name, under which there is no folder. -/
theorem IsWritten.rename (written : IsWritten disk after old number bytes)
    (named : old ≠ []) (named' : new ≠ []) (different : old ≠ new) :
    let moved := (after.drop old).put new (.file number)
    moved.Sound ∧ moved.working = disk.working ∧
      moved.sight? new = some (.file bytes) ∧ moved.sight? old = none ∧
      ∀ other, ¬ old <+: other → other ≠ new →
        moved.sight? other = disk.sight? other := by
  intro moved
  have entries (other : Place) : moved.entryAt? other =
      if other = new then some (.file number) else
        if old <+: other then none else after.entryAt? other := by
    rw [entryAt?_put named', entryAt?_drop named]
  have kept {other : Place} (aside : ¬ old <+: other) (apart : other ≠ new) :
      moved.entryAt? other = after.entryAt? other := by
    rw [entries, if_neg apart, if_neg aside]
  have file {other : Place} {known : Nat}
      (found : moved.entryAt? other = some (.file known))
      (apart : other ≠ new) :
        ¬ old <+: other ∧ after.entryAt? other = some (.file known) := by
    rw [entries, if_neg apart] at found
    split at found
    · cases found
    · exact ⟨‹_›, found⟩
  have here {known : Nat} (found : moved.entryAt? new = some (.file known)) :
      number = known := by
    rw [entries, if_pos rfl] at found
    simpa using found
  have alone {other : Place}
      (found : moved.entryAt? other = some (.file number)) : other = new := by
    by_cases same : other = new
    · exact same
    · obtain ⟨aside, found'⟩ := file found same
      obtain rfl := written.sound.apart old other number written.entry found'
      exact absurd List.prefix_rfl aside
  refine ⟨⟨fun other known found => ?_, fun one other known found found' => ?_⟩,
    written.alike.working, ?_, ?_, fun other aside apart => ?_⟩
  · by_cases same : other = new
    · subst same
      rw [← here found]
      exact written.sound.stored old number written.entry
    · exact written.sound.stored other known (file found same).2
  · by_cases same : one = new
    · subst same
      obtain rfl := here found
      exact (alone found').symm
    · by_cases same' : other = new
      · subst same'
        obtain rfl := here found'
        exact alone found
      · exact written.sound.apart one other known (file found same).2
          (file found' same').2
  · rw [sight?_eq_file_iff]
    exact ⟨number, by rw [entries, if_pos rfl], written.content⟩
  · rw [sight?_eq_none_iff, entries, if_neg different, if_pos List.prefix_rfl]
  · have same : moved.sight? other = after.sight? other :=
      sight?_congr (kept aside apart) fun _ _ => rfl
    rw [same, written.alike.elsewhere other aside]

/-- A draft that was not needed is taken away. -/
theorem IsWritten.drop (written : IsWritten disk after place number bytes)
    (named : place ≠ []) :
    (after.drop place).Sound ∧ Alike place disk (after.drop place) := by
  have kept {other : Place} {entry : Entry}
      (found : (after.drop place).entryAt? other = some entry) :
      after.entryAt? other = some entry := by
    rw [entryAt?_drop named] at found
    split at found
    · cases found
    · exact found
  refine ⟨⟨fun other known found =>
    written.sound.stored other known (kept found),
    fun one other known found found' =>
      written.sound.apart one other known (kept found) (kept found')⟩,
    written.alike.working, fun other aside => ?_⟩
  have same : (after.drop place).sight? other = after.sight? other :=
    sight?_congr (by rw [entryAt?_drop named, if_neg aside]) fun _ _ => rfl
  rw [same, written.alike.elsewhere other aside]

theorem remove_of_file (leads : placeOf disk.working source = home ++ [name])
    (opened : disk.IsOpen home)
    (found : disk.entryAt? (home ++ [name]) = some (.file number)) :
    disk.remove source = (.ok (), disk.drop (home ++ [name])) := by
  rw [remove, reach_of_isOpen leads opened]
  simp only [found]

end Naming

end Disk

end Switchyard.Files
