import Switchyard.Proofs.Acceptance
import Switchyard.Store.Folder

/-!
# What the check says and what the parts do

The language, the secret and the profile are each read twice: by the check of
the settings, and by the part of the daemon that uses them. The check wants a
language by its exact name, the part takes it in any case and with a region. For
the other two the check asks whether anything is said, and the part whether it
comes to anything; the two agree wherever what is said is not empty.
-/

namespace Switchyard

namespace Settings.Findings

def hasErrorAt (findings : Findings) (place : String) : Bool :=
  findings.errors.any (·.place == place)

def warnsAt (findings : Findings) (place : String) : Bool :=
  findings.warnings.any (·.place == place)

variable (checks : List Findings) (isFound : Bool)
  (place message other : String)

@[simp]
theorem hasErrorAt_all :
    (all checks).hasErrorAt place = checks.any (hasErrorAt · place) := by
  simp [hasErrorAt, List.any_flatMap]

@[simp]
theorem warnsAt_all :
    (all checks).warnsAt place = checks.any (warnsAt · place) := by
  simp [warnsAt, List.any_flatMap]

@[simp]
theorem hasErrorAt_error :
    (error isFound place message).hasErrorAt other =
      (isFound && place == other) := by
  cases isFound <;> simp [hasErrorAt, error]

@[simp]
theorem hasErrorAt_warning :
    (warning isFound place message).hasErrorAt other = false := rfl

@[simp]
theorem warnsAt_warning :
    (warning isFound place message).warnsAt other =
      (isFound && place == other) := by
  cases isFound <;> simp [warnsAt, warning]

@[simp]
theorem warnsAt_error : (error isFound place message).warnsAt other = false :=
  rfl

end Settings.Findings

namespace Url

theorem splitScheme?_eq_none {characters : List Char}
    (white : ∀ character ∈ characters, Text.isWhite character = true) :
    splitScheme? characters = none := by
  cases characters with
  | nil => rfl
  | cons first rest =>
    have outer : (first.isAlphanum || ['+', '-', '.'].contains first) =
        false := by
      by_contra inner
      rw [Bool.not_eq_false, Bool.or_eq_true, List.contains_iff_mem] at inner
      have black : Text.isWhite first = false := by
        rcases inner with counted | sign
        · exact Text.isWhite_eq_false_of_isAlphanum counted
        · simp only [List.mem_cons, List.not_mem_nil, or_false] at sign
          rcases sign with rfl | rfl | rfl <;> decide
      simp [white first List.mem_cons_self] at black
    simp only [splitScheme?, List.takeWhile_cons, outer]
    rfl

theorem mem_of_mem_countedCharacters {text : String} {character : Char}
    (member : character ∈ countedCharacters text) :
    character ∈ text.toList := by
  have trimmed := List.mem_of_mem_filter member
  have front :=
    List.mem_reverse.1
      ((List.dropWhile_sublist _).mem (List.mem_reverse.1 trimmed))
  exact (List.dropWhile_sublist _).mem front

/-- No URL is blank. -/
theorem parse_of_isBlank {text : String} (blank : Text.isBlank text = true) :
    parse text = .error .relative := by
  have white := List.all_eq_true.1 blank
  rw [parse, splitScheme?_eq_none fun _ member =>
    white _ (mem_of_mem_countedCharacters member)]

end Url

namespace Settings

/-- The addresses of a controller that is reached without a network. -/
def localHosts : List String := ["127.0.0.1", "localhost", "[::1]"]

theorem isLocal_eq_false_iff {url : Url} :
    isLocal url = false ↔ ∀ host ∈ localHosts, url.hostText? ≠ some host := by
  unfold isLocal
  split
  · next host named =>
    rw [named, ← Bool.not_eq_true, List.contains_iff_mem]
    constructor
    · rintro foreign _ member ⟨⟩
      exact foreign member
    · intro foreign member
      exact foreign host member rfl
  · next named => simp [named]

section Access

variable (access : Access)

theorem hasErrorAt_urlFindings {place : String}
    (elsewhere : "engine.controller_url" ≠ place) :
    (urlFindings access).hasErrorAt place = false := by
  unfold urlFindings
  split
  · simp [elsewhere]
  · split
    · simp [elsewhere]
    · split
      · simp [elsewhere]
      · rfl

theorem warnsAt_urlFindings_iff {place : String} :
    (urlFindings access).warnsAt place = true ↔
      "engine.secret" = place ∧ access.secret = none ∧
        ∃ url, Url.parse access.url = .ok url ∧ url.isWeb = true ∧
        isLocal url = false := by
  unfold urlFindings
  split
  · next blank => simp [Url.parse_of_isBlank blank]
  · split
    · next unread => simp [unread]
    · next url parsed =>
      rw [← Url.not_isWeb, parsed]
      cases web : url.isWeb with
      | true => simp [web, and_comm]
      | false => simp [web]

/-- A secret that is not empty, and none at all, are taken as they are. -/
theorem secret_effective (told : access.secret ≠ some "") :
    access.effective.secret = access.secret := by
  unfold Access.effective
  cases secret : access.secret with
  | none => rfl
  | some text =>
    have filled : text ≠ "" := fun empty => told (by rw [secret, empty])
    simp [filled]

end Access

section Whole

variable (settings : Settings)

theorem hasErrorAt_locale_iff :
    settings.findings.hasErrorAt "status.locale" = true ↔
      ∀ locale : Locale, settings.language ≠ locale.name := by
  have found : settings.findings.hasErrorAt "status.locale" =
      !languages.contains settings.language := by
    simp [findings, Access.findings, Files.findings, languageFindings,
      Pace.findings, positiveFindings, hasErrorAt_urlFindings]
  rw [found, Bool.not_eq_true', ← Bool.not_eq_true, List.contains_iff_mem,
    mem_languages_iff, not_exists]

theorem warnsAt_secret_iff :
    settings.findings.warnsAt "engine.secret" = true ↔
      settings.access.secret = none ∧
      ∃ url, Url.parse settings.access.url = .ok url ∧ url.isWeb = true ∧
      isLocal url = false := by
  have found : settings.findings.warnsAt "engine.secret" =
      (urlFindings settings.access).warnsAt "engine.secret" := by
    simp [findings, Access.findings, Files.findings, languageFindings,
      Pace.findings, positiveFindings]
  rw [found, warnsAt_urlFindings_iff, eq_self_iff_true, true_and]

theorem warnsAt_profile :
    settings.findings.warnsAt "store.profile" =
      settings.files.profile.isNone := by
  have elsewhere : (urlFindings settings.access).warnsAt "store.profile" =
      false := by
    rw [← Bool.not_eq_true, warnsAt_urlFindings_iff]
    rintro ⟨other, -⟩
    exact absurd other (by decide)
  simp [findings, Access.findings, Files.findings, languageFindings,
    Pace.findings, positiveFindings, elsewhere]

end Whole

end Settings

/-- A profile that is not blank, and none at all, are taken as they are. -/
theorem Store.SelectionFile.profile_ofFolder (path : String)
    {profile : Option String}
    (filled : ∀ name, profile = some name → Text.isBlank name = false) :
    (ofFolder path profile).profile = profile := by
  unfold ofFolder
  cases profile with
  | none => rfl
  | some name => simp [filled name rfl]

namespace Daemon

/-- The check finds an error in the language unless it is the exact name of one,
and every other language that is let through is the one that the statuses are
written in. Unless the secret is the empty one and the controller is elsewhere,
the check warns of the lack of a secret exactly if the controller is elsewhere
and its client has none. Unless the profile is blank, the check warns of its
lack exactly if the file of selections has none. -/
theorem check_agrees_with_parts (settings : Settings) :
    (settings.findings.hasErrorAt "status.locale" = true ↔
        ∀ locale : Locale, settings.language ≠ locale.name) ∧
      (settings.findings.hasErrorAt "status.locale" = false →
        ∃ locale : Locale, settings.language = locale.name ∧
          Locale.parse? settings.language = .ok locale) ∧
      ((settings.access.secret = some "" →
          ∀ url, Url.parse settings.access.url = .ok url → url.isWeb = true →
            ∃ host ∈ Settings.localHosts, url.hostText? = some host) →
        (settings.findings.warnsAt "engine.secret" = true ↔
          ∃ url client, Url.parse settings.access.url = .ok url ∧
            url.isWeb = true ∧
            (∀ host ∈ Settings.localHosts, url.hostText? ≠ some host) ∧
            Controller.Client.ofAccess settings.access = .ok client ∧
            client.secret = none)) ∧
      ((∀ profile, settings.files.profile = some profile →
          Text.isBlank profile = false) →
        ∀ path, (settings.findings.warnsAt "store.profile" = true ↔
          (Store.SelectionFile.ofFolder path settings.files.profile).profile =
            none)) := by
  refine ⟨settings.hasErrorAt_locale_iff, ?_, ?_, ?_⟩
  · intro accepted
    have named : ∃ locale : Locale, settings.language = locale.name := by
      by_contra unnamed
      rw [not_exists, ← settings.hasErrorAt_locale_iff, accepted] at unnamed
      cases unnamed
    obtain ⟨locale, name⟩ := named
    exact ⟨locale, name, by rw [name, Locale.parse?_name]⟩
  · intro near
    -- an empty secret is given, so that nothing is said of it, and is not used
    have told {url : Url} (parsed : Url.parse settings.access.url = .ok url)
        (web : url.isWeb = true)
        (elsewhere : ∀ host ∈ Settings.localHosts, url.hostText? ≠ some host) :
        settings.access.secret ≠ some "" := by
      intro empty
      obtain ⟨host, member, named⟩ := near empty url parsed web
      exact elsewhere host member named
    rw [settings.warnsAt_secret_iff]
    constructor
    · rintro ⟨untold, url, parsed, web, foreign⟩
      have elsewhere := Settings.isLocal_eq_false_iff.1 foreign
      have taken :=
        Settings.secret_effective settings.access (told parsed web elsewhere)
      obtain ⟨client, made, -, secret⟩ := exists_client parsed web
      exact ⟨url, client, parsed, web, elsewhere, made,
        secret.trans (taken.trans untold)⟩
    · rintro ⟨url, client, parsed, web, elsewhere, made, untold⟩
      have taken :=
        Settings.secret_effective settings.access (told parsed web elsewhere)
      obtain ⟨_, same, -, secret⟩ := exists_client parsed web
      obtain rfl : client = _ := Except.ok.inj (made.symm.trans same)
      exact ⟨taken.symm.trans (secret.symm.trans untold), url, parsed, web,
        Settings.isLocal_eq_false_iff.2 elsewhere⟩
  · intro filled path
    rw [settings.warnsAt_profile, Option.isNone_iff_eq_none,
      Store.SelectionFile.profile_ofFolder path filled]

/-- Settings for a controller elsewhere, with a language of a region, that say
nothing of a secret and of a profile. -/
def unguarded : Settings :=
  { Settings.usual with
    access := { Settings.Access.usual with url := "http://10.0.0.1:9090" }
    language := "en-US" }

/-- Settings for the usual controller with an empty secret. -/
def hushed : Settings :=
  { Settings.usual with
    access := { Settings.Access.usual with secret := some "" } }

theorem check_agrees_with_parts_of_unguarded :
    (∀ locale : Locale, unguarded.language ≠ locale.name) ∧
      (∃ locale : Locale, Settings.usual.language = locale.name ∧
        Locale.parse? Settings.usual.language = .ok locale) ∧
      (∃ url client, Url.parse unguarded.access.url = .ok url ∧
        url.isWeb = true ∧
        (∀ host ∈ Settings.localHosts, url.hostText? ≠ some host) ∧
        Controller.Client.ofAccess unguarded.access = .ok client ∧
        client.secret = none) ∧
      (¬ ∃ url client, Url.parse hushed.access.url = .ok url ∧
        url.isWeb = true ∧
        (∀ host ∈ Settings.localHosts, url.hostText? ≠ some host) ∧
        Controller.Client.ofAccess hushed.access = .ok client ∧
        client.secret = none) ∧
      (Store.SelectionFile.ofFolder "data" unguarded.files.profile).profile =
        none := by
  obtain ⟨language, -, secret, profile⟩ := check_agrees_with_parts unguarded
  obtain ⟨-, named, -, -⟩ := check_agrees_with_parts Settings.usual
  obtain ⟨-, -, quiet, -⟩ := check_agrees_with_parts hushed
  have near (url : Url) (parsed : Url.parse hushed.access.url = .ok url) :
      ∃ host ∈ Settings.localHosts, url.hostText? = some host := by
    have known : (Url.parse hushed.access.url).toOption.bind Url.hostText? =
        some "127.0.0.1" := by
      decide +kernel
    rw [parsed] at known
    exact ⟨"127.0.0.1", List.mem_cons_self, known⟩
  have unwarned : hushed.findings.warnsAt "engine.secret" = false := by
    decide +kernel
  refine ⟨language.1 (by decide +kernel), named (by decide +kernel),
    (secret fun empty => absurd empty (by decide)).1 (by decide +kernel), ?_,
    (profile (fun _ told => nomatch told) "data").1 (by decide +kernel)⟩
  rw [← quiet fun _ url parsed _ => near url parsed, unwarned]
  decide

/-- Settings for a controller elsewhere in which a language is named in
capitals, the secret is empty and the profile is blank. -/
def hollow : Settings :=
  { Settings.usual with
    access :=
      { Settings.Access.usual with
        url := "http://10.0.0.1:9090", secret := some "" }
    files := { Settings.Files.usual with profile := some "  " }
    language := "EN" }

/-- The check lets through what is empty and what is blank, and it does not let
through a language that the statuses could be written in. -/
theorem check_disagrees_with_parts :
    (hollow.findings.hasErrorAt "status.locale" = true ∧
        Locale.parse? hollow.language = .ok .en) ∧
      (hollow.findings.warnsAt "engine.secret" = false ∧
        ∃ url client, Url.parse hollow.access.url = .ok url ∧ url.isWeb = true ∧
          (∀ host ∈ Settings.localHosts, url.hostText? ≠ some host) ∧
          Controller.Client.ofAccess hollow.access = .ok client ∧
          client.secret = none) ∧
      (hollow.findings.warnsAt "store.profile" = false ∧
        (Store.SelectionFile.ofFolder "data" hollow.files.profile).profile =
          none) := by
  obtain ⟨-, url, parsed, web, elsewhere⟩ :=
    unguarded.warnsAt_secret_iff.1 (by decide +kernel)
  have sameUrl : Url.parse hollow.access.url = .ok url := parsed
  obtain ⟨client, made, -, secret⟩ := exists_client sameUrl web
  exact ⟨⟨by decide +kernel, by decide +kernel⟩,
    ⟨by decide +kernel, url, client, parsed, web,
      Settings.isLocal_eq_false_iff.1 elsewhere, made, secret⟩,
    by decide +kernel, by decide +kernel⟩

end Daemon

end Switchyard
