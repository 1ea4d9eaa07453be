import Switchyard.Daemon.Setup
import Switchyard.Proofs.Pauses

/-!
# What accepted settings are good for

Settings in which the check finds no error can be used: the language of the
statuses is known, the client of the controller can be made, and the control
loop keeps a time in which no wait is over at once. The check looks at seconds
as they are written and the loop at milliseconds, of which there is a greatest
number; neither order nor sign is lost on the way.
-/

namespace Switchyard

namespace Settings.Findings

theorem foldl_and (found : Findings) (checks : List Findings) :
    checks.foldl and found =
      ⟨found.errors ++ checks.flatMap errors,
        found.warnings ++ checks.flatMap warnings⟩ := by
  induction checks generalizing found with
  | nil => simp
  | cons check checks checksFact => simp [checksFact, and]

@[simp]
theorem errors_all (checks : List Findings) :
    (all checks).errors = checks.flatMap errors := by
  simp [all, foldl_and]

@[simp]
theorem warnings_all (checks : List Findings) :
    (all checks).warnings = checks.flatMap warnings := by
  simp [all, foldl_and]

variable (isFound : Bool) (place message : String)

@[simp]
theorem errors_warning : (warning isFound place message).errors = [] := rfl

@[simp]
theorem warnings_error : (error isFound place message).warnings = [] := rfl

@[simp]
theorem errors_error_eq_nil_iff : (error isFound place message).errors = [] ↔
    isFound = false := by
  cases isFound <;> simp [error]

theorem isValid_iff {findings : Findings} :
    findings.isValid = true ↔ findings.errors = [] :=
  List.isEmpty_iff

end Settings.Findings

namespace Url

/-- Whether a URL is one that a controller can have. -/
def isWeb (url : Url) : Bool := url.scheme == "http" || url.scheme == "https"

theorem not_isWeb (url : Url) :
    (!url.isWeb) = (url.scheme != "http" && url.scheme != "https") :=
  Bool.not_or _ _

section Reading

variable {text scheme : String} {characters : List Char} {url : Url}

theorem of_readWithAuthority
    (read : readWithAuthority scheme characters = .ok url) :
    url.scheme = scheme ∧ url.isHierarchical = true := by
  simp only [readWithAuthority, bind, Except.bind] at read
  split at read
  · cases read
  · cases read
    exact ⟨rfl, rfl⟩

theorem scheme_of_readOther (read : readOther scheme characters = .ok url) :
    url.scheme = scheme := by
  unfold readOther at read
  split at read
  · exact (of_readWithAuthority read).1
  · cases read
    rfl

theorem isHierarchical_of_readFile (read : readFile characters = .ok url) :
    url.isHierarchical = true := by
  simp only [readFile, bind, Except.bind] at read
  split at read
  · split at read
    · split at read
      · cases read
        rfl
      · split at read
        · cases read
        · cases read
          rfl
    · cases read
      rfl
  · cases read
    rfl

/-- A URL of one of the usual schemes has a path of segments. -/
theorem isHierarchical_of_parse (parsed : parse text = .ok url)
    (usual : url.isUsual = true) :
    url.isHierarchical = true := by
  unfold parse at parsed
  split at parsed
  · cases parsed
  · split at parsed
    · exact isHierarchical_of_readFile parsed
    · split at parsed
      · exact (of_readWithAuthority parsed).2
      · rename_i unusual
        rw [isUsual, scheme_of_readOther parsed] at usual
        exact absurd usual unusual

theorem isUsual_of_isWeb (web : url.isWeb = true) : url.isUsual = true := by
  simp only [isWeb, Bool.or_eq_true, beq_iff_eq] at web
  rcases web with http | https
  · rw [isUsual, http]
    rfl
  · rw [isUsual, https]
    rfl

end Reading

end Url

theorem Locale.parse?_name (locale : Locale) :
    Locale.parse? locale.name = .ok locale := by
  cases locale <;> decide +kernel

namespace Settings

/-- What no error in the address of the controller means. -/
theorem exists_url_of_errors_urlFindings {access : Access}
    (accepted : (urlFindings access).errors = []) :
    ∃ url, Url.parse access.url = .ok url ∧ url.isWeb = true := by
  unfold urlFindings at accepted
  split at accepted
  · simp at accepted
  · split at accepted
    · simp at accepted
    · rename_i url parsed
      refine ⟨url, parsed, ?_⟩
      by_contra other
      rw [← Url.not_isWeb] at accepted
      simp [other] at accepted

theorem errors_languageFindings_eq_nil_iff {language : String} :
    (languageFindings language).errors = [] ↔ language ∈ languages := by
  simp [languageFindings]

/-- The languages that the check knows are those of the catalogue, by their
exact names. -/
theorem mem_languages_iff {language : String} :
    language ∈ languages ↔ ∃ locale : Locale, language = locale.name := by
  constructor
  · intro known
    have named : language = "en" ∨ language = "zh" := by
      simpa only [languages, List.mem_cons, List.not_mem_nil, or_false]
        using known
    rcases named with name | name
    · exact ⟨.en, name⟩
    · exact ⟨.zh, name⟩
  · rintro ⟨locale, rfl⟩
    cases locale <;> decide

/-- What no error in the timing means. -/
structure Pace.IsAccepted (pace : Pace) : Prop where
  least : 0 < pace.minIntervalSeconds
  ordered : pace.minIntervalSeconds ≤ pace.maxIntervalSeconds
  fastRetry : 0 < pace.fastRetry
  healthCheckTimeout : 0 < pace.healthCheckTimeout
  confirmAttempts : 0 < pace.confirmAttempts

theorem Pace.isAccepted_of_errors {pace : Pace}
    (accepted : pace.findings.errors = []) :
    pace.IsAccepted := by
  simp only [findings, positiveFindings, Findings.errors_all, List.flatMap_cons,
    List.flatMap_nil, List.append_eq_nil_iff, Findings.errors_error_eq_nil_iff,
    beq_eq_false_iff_ne, decide_eq_false_iff_not] at accepted
  obtain ⟨least, ordered, fastRetry, healthCheckTimeout, confirmAttempts, -⟩ :=
    accepted
  exact ⟨UInt64.pos_iff_ne_zero.2 least, UInt64.not_lt.1 ordered,
    UInt64.pos_iff_ne_zero.2 fastRetry,
    UInt64.pos_iff_ne_zero.2 healthCheckTimeout,
    UInt32.pos_iff_ne_zero.2 confirmAttempts⟩

theorem toNat_millisOfSeconds (seconds : UInt64) :
    (millisOfSeconds seconds).toNat =
      min (seconds.toNat * 1000) (UInt64.size - 1) :=
  UInt64.toNat_ofNat_of_lt'
    (Nat.lt_of_le_of_lt (Nat.min_le_right _ _) (by decide))

theorem millisOfSeconds_pos {seconds : UInt64} (positive : 0 < seconds) :
    0 < millisOfSeconds seconds := by
  have counted : 0 < seconds.toNat := UInt64.lt_iff_toNat_lt.1 positive
  have room : 0 < UInt64.size - 1 := by decide
  rw [UInt64.lt_iff_toNat_lt, toNat_millisOfSeconds]
  exact Nat.lt_min.2 ⟨Nat.mul_pos counted (by decide), room⟩

theorem millisOfSeconds_le_millisOfSeconds {fewer more : UInt64}
    (ordered : fewer ≤ more) :
    millisOfSeconds fewer ≤ millisOfSeconds more := by
  have counted : fewer.toNat ≤ more.toNat := UInt64.le_iff_toNat_le.1 ordered
  rw [UInt64.le_iff_toNat_le, toNat_millisOfSeconds, toNat_millisOfSeconds]
  omega

end Settings

/-- A wait has some length as soon as the fast retry and both intervals have. -/
theorem Timing.waitLength_pos {timing : Timing}
    (fastRetry : 0 < timing.fastRetry) (least : 0 < timing.minInterval)
    (greatest : 0 < timing.maxInterval) (retry : Option Nat)
    (probeInterval : Nat) : 0 < timing.waitLength retry probeInterval := by
  have length {millis : UInt64} (positive : 0 < millis) :
      0 < Duration.ofMillis millis.toNat :=
    Nat.mul_pos (UInt64.lt_iff_toNat_lt.1 positive) (by decide)
  have bounded {millis : UInt64} (positive : 0 < millis) (wish : Nat) :
      0 < min (max wish (Duration.ofMillis millis.toNat))
        (Duration.ofMillis timing.maxInterval.toNat) :=
    Nat.lt_min.2 ⟨Nat.lt_of_lt_of_le (length positive) (Nat.le_max_right _ _),
      length greatest⟩
  cases retry with
  | none => exact bounded least probeInterval
  | some wish => exact bounded fastRetry wish

namespace Control

/-- If every wait has some length, then no deadline of a loop is the moment of
its last report. -/
theorem announced_before_deadline {Outside : Type} (parties : Parties Outside)
    {timing : Timing} (locale : Locale) {around : Surroundings Outside}
    (sound : around.bus.Sound)
    (lengths : ∀ retry probeInterval, 0 < timing.waitLength retry probeInterval)
    (moves : List (Course.Move Outside)) {deadline : Nat}
    (stage :
      ((Course.start timing locale around).play parties moves).loop.stage =
      .waiting (some deadline)) :
    ∃ reported < deadline,
      announcedAt? ((Course.start timing locale around).play parties
        moves).log = some reported := by
  obtain ⟨chronicled, timingFact, -⟩ :=
    chronicled_play parties timing locale sound moves
  obtain ⟨endings, stands⟩ := chronicled.stands
  obtain ⟨current, earlier, ending, older, reported, -, -,
      announced, -, rested⟩ :=
    stands.of_waiting stage
  rw [timingFact, ← Ending.map_waitLength, Option.map_map] at rested
  obtain ⟨interval, -, rfl⟩ := Option.map_eq_some_iff.1 rested.symm
  exact ⟨reported, Nat.lt_add_of_pos_right (lengths _ interval), announced⟩

end Control

namespace Daemon

theorem exists_localeOf {settings : Settings}
    (known : settings.language ∈ Settings.languages) :
    ∃ locale, localeOf settings = .ok locale := by
  obtain ⟨locale, named⟩ := Settings.mem_languages_iff.1 known
  exact ⟨locale, by delta localeOf; rw [named, Locale.parse?_name]⟩

theorem exists_client {access : Settings.Access} {url : Url}
    (parsed : Url.parse access.url = .ok url) (web : url.isWeb = true) :
    ∃ client, Controller.Client.ofAccess access = .ok client ∧
      client.base = url ∧ client.secret = access.effective.secret := by
  have hierarchical :=
    Url.isHierarchical_of_parse parsed (Url.isUsual_of_isWeb web)
  rw [Controller.Client.ofAccess, parsed]
  simp only [hierarchical, if_true]
  exact ⟨_, rfl, rfl, rfl⟩

/-- Settings without an error name a language and a controller that can be used,
and a timing in whose bounds every wait has some length. A loop that keeps this
timing never waits for a moment that has come when its last report is
announced. -/
theorem accepted_settings_serve {settings : Settings}
    (accepted : settings.findings.isValid = true) :
    let timing := settings.pace.timing
    (∃ locale, localeOf settings = .ok locale) ∧
      (∃ client, Controller.Client.ofAccess settings.access = .ok client) ∧
      0 < timing.minInterval ∧ timing.minInterval ≤ timing.maxInterval ∧
      1 ≤ timing.confirmAttempts ∧
      (∀ retry probeInterval, 0 < timing.waitLength retry probeInterval) ∧
      ∀ {Outside : Type} (parties : Control.Parties Outside) (locale : Locale)
        (around : Control.Surroundings Outside) (moves :
          List (Control.Course.Move Outside))
        (deadline : Nat), around.bus.Sound →
        let course :=
          (Control.Course.start timing locale around).play parties moves
        course.loop.stage = .waiting (some deadline) →
          ∃ reported < deadline,
            Control.announcedAt? course.log = some reported := by
  intro timing
  have clean := Settings.Findings.isValid_iff.1 accepted
  simp only [Settings.findings, Settings.Findings.errors_all, List.flatMap_cons,
    List.flatMap_nil, List.append_eq_nil_iff] at clean
  obtain ⟨access, -, language, pace, -⟩ := clean
  simp only [Settings.Access.findings, Settings.Findings.errors_all,
    List.flatMap_cons, List.append_eq_nil_iff] at access
  obtain ⟨url, parsed, web⟩ :=
    Settings.exists_url_of_errors_urlFindings access.1
  obtain ⟨client, made, -⟩ := exists_client parsed web
  have pace := Settings.Pace.isAccepted_of_errors pace
  have least : 0 < timing.minInterval := Settings.millisOfSeconds_pos pace.least
  have ordered : timing.minInterval ≤ timing.maxInterval :=
    Settings.millisOfSeconds_le_millisOfSeconds pace.ordered
  have lengths : ∀ retry probeInterval,
      0 < timing.waitLength retry probeInterval :=
    Timing.waitLength_pos pace.fastRetry least
      (UInt64.lt_of_lt_of_le least ordered)
  refine ⟨exists_localeOf
    (Settings.errors_languageFindings_eq_nil_iff.1 language),
    ⟨client, made⟩, least, ordered, ?_, lengths, ?_⟩
  · exact UInt32.le_iff_toNat_le.2
      (UInt32.lt_iff_toNat_lt.1 pace.confirmAttempts)
  · intro Outside parties locale around moves deadline sound course stage
    exact Control.announced_before_deadline parties locale sound
      lengths moves stage

/-- Settings with intervals of more seconds than there are milliseconds to
count. -/
def patient : Settings :=
  { Settings.usual with
    access :=
      { Settings.Access.usual with url := " HTTPS://Gate.example:443/ui " }
    language := "zh"
    pace := { Settings.Pace.usual with
      minIntervalSeconds := 18446744073709551615, maxIntervalSeconds :=
        18446744073709551615 } }

/-- Both intervals become the greatest number of milliseconds. A loop that finds
the best candidate in use waits as long, whatever the policy's own interval. -/
theorem patient_settings_serve :
    let policy : Policy :=
      { Policy.initial with
        enabled := true, candidates := NameSet.ofList ["A"] }
    let group : Group := ⟨"GLOBAL", "A", [⟨"A", "", .stable 50⟩]⟩
    patient.findings.isValid = true ∧
      (∃ locale, localeOf patient = .ok locale) ∧
      (∃ client, Controller.Client.ofAccess patient.access = .ok client) ∧
      patient.pace.timing.minInterval = 18446744073709551615 ∧
      patient.pace.timing.minInterval ≤ patient.pace.timing.maxInterval ∧
      let course := (Control.Course.start patient.pace.timing .zh
        (.fresh Bus.usualCapacity)).play (Control.obliging policy group)
        [.step, .step, .step, .step]
      course.loop.stage =
        .waiting (some (Duration.ofMillis 18446744073709551615)) ∧
        ∃ reported < Duration.ofMillis 18446744073709551615,
          Control.announcedAt? course.log = some reported := by
  intro policy group
  have accepted : patient.findings.isValid = true := by decide +kernel
  obtain ⟨locale, client, -, ordered, -, -, waits⟩ :=
    accepted_settings_serve accepted
  refine ⟨accepted, locale, client, by decide +kernel, ordered, ?_⟩
  intro course
  have stage : course.loop.stage =
      .waiting (some (Duration.ofMillis 18446744073709551615)) :=
    Control.Stage.eq_of_deadline? (by decide +kernel)
  exact ⟨stage,
    waits (Control.obliging policy group) .zh (.fresh Bus.usualCapacity)
      [.step, .step, .step, .step] _
      (Control.sound_fresh Bus.usualCapacity) stage⟩

end Daemon

end Switchyard
