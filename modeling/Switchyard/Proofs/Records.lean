import Switchyard.Group
import Switchyard.Policy
import Switchyard.Proofs.JsonText
import Switchyard.Selection
import Switchyard.StatusRecord
import Switchyard.Store.Folder
import Switchyard.Timing

/-!
# Reading records back

A record is written as an object that names all its fields. Whoever reads such
an object gets the record that was written, with the same set of candidates, the
same delays and the same numbers. The selections of a store are written as an
object of objects, and come back as the same map.
-/

namespace Switchyard

namespace NameSet

theorem place_of_lt {name : String} {names : List String}
    (least : ∀ other ∈ names, name < other) :
    place name names = name :: names := by
  cases names with
  | nil => rfl
  | cons head tail => rw [place, if_pos (least head List.mem_cons_self)]

/-- A set is the set of the names in its list. -/
@[simp]
theorem ofList_toList (names : NameSet) : ofList names.toList = names := by
  obtain ⟨names, increasing⟩ := names
  apply ext
  induction names with
  | nil => rfl
  | cons head tail tailFact =>
    obtain ⟨least, tailIncreasing⟩ := List.pairwise_cons.1 increasing
    have unfolded : (ofList (head :: tail)).toList =
      place head (ofList tail).toList := rfl
    rw [unfolded, tailFact tailIncreasing]
    exact place_of_lt least

end NameSet

namespace NameMap

variable {Value : Type}

theorem place_of_gt {name : String} {value : Value}
    {entries : List (String × Value)}
    (greatest : ∀ entry ∈ entries, entry.1 < name) :
    place name value entries = entries ++ [(name, value)] := by
  induction entries with
  | nil => rfl
  | cons entry tail tailFact =>
    obtain ⟨head, held⟩ := entry
    have behind : head < name := greatest _ List.mem_cons_self
    rw [place, if_neg (String.lt_asymm behind), if_pos behind,
      tailFact fun other member =>
        greatest other (List.mem_cons_of_mem _ member)]
    rfl

theorem toList_ofList {entries : List (String × Value)}
    (increasing : (entries.map Prod.fst).Pairwise (· < ·)) :
    (ofList entries).toList = entries := by
  induction entries using List.reverseRecOn with
  | nil => rfl
  | append_singleton former last formerFact =>
    rw [List.map_append, List.pairwise_append] at increasing
    obtain ⟨formerIncreasing, -, below⟩ := increasing
    have whole : (ofList (former ++ [last])).toList =
        place last.1 last.2 (ofList former).toList := by
      rw [ofList, List.foldl_append]
      rfl
    rw [whole, formerFact formerIncreasing]
    refine place_of_gt fun entry member => ?_
    exact below entry.1 (List.mem_map_of_mem member) last.1 (by simp)

/-- A map is the map of its list of entries. -/
@[simp]
theorem ofList_toList (entries : NameMap Value) :
    ofList entries.toList = entries := by
  obtain ⟨entries, increasing⟩ := entries
  have same := toList_ofList increasing
  generalize ofList entries = built at same ⊢
  obtain ⟨built, builtIncreasing⟩ := built
  subst same
  rfl

end NameMap

namespace Json

@[simp]
theorem bool?_bool (value : Bool) : bool? (.bool value) = some value := rfl

@[simp]
theorem text?_text (value : String) : text? (.text value) = some value := rfl

@[simp]
theorem word64?_toNat (value : UInt64) :
    word64? (.int value.toNat) = some value := by
  have bound : (0 : Int) ≤ value.toNat ∧ (value.toNat : Int) < UInt64.size :=
    ⟨Int.natCast_nonneg _, Int.ofNat_lt.2 value.toNat_lt_size⟩
  rw [word64?, nat?, if_pos bound, Option.map_some, Int.toNat_natCast,
    UInt64.ofNat_toNat]

@[simp]
theorem word32?_toNat (value : UInt32) :
    word32? (.int value.toNat) = some value := by
  have bound : (0 : Int) ≤ value.toNat ∧ (value.toNat : Int) < UInt32.size :=
    ⟨Int.natCast_nonneg _, Int.ofNat_lt.2 value.toNat_lt_size⟩
  rw [word32?, nat?, if_pos bound, Option.map_some, Int.toNat_natCast,
    UInt32.ofNat_toNat]

@[simp]
theorem int64?_toInt (value : Int64) :
    int64? (.int value.toInt) = some value := by
  have bound : isInt64 value.toInt = true :=
    decide_eq_true ⟨Int64.minValue_le_toInt value, value.toInt_le⟩
  simp [int64?, bound]

/-- A list whose items are read back is read back. -/
theorem list?_map {Value : Type} {read : Json → Option Value}
    {write : Value → Json} (reads : ∀ value, read (write value) = some value)
    (values : List Value) :
    list? read (.array (values.map write)) = some values := by
  unfold list?
  induction values with
  | nil => rfl
  | cons value values valuesFact => simp [reads, valuesFact]

@[simp]
theorem texts?_map_text (texts : List String) :
    texts? (.array (texts.map Json.text)) = some texts :=
  list?_map text?_text texts

@[simp]
theorem names?_toList (names : NameSet) :
    names? (.array (names.toList.map Json.text)) = some names := by
  rw [names?, texts?_map_text, Option.map_some, NameSet.ofList_toList]

/-- A map whose values are read back is read back. -/
theorem map?_toList {Value : Type} {read : Json → Option Value}
    {write : Value → Json} (reads : ∀ value, read (write value) = some value)
    (entries : NameMap Value) :
    map? read
      (.object (entries.toList.map fun entry => (entry.1, write entry.2))) =
      some entries := by
  have members :
      ((entries.toList.map fun entry => (entry.1, write entry.2)).mapM
      fun member => (read member.2).map (member.1, ·)) =
        some entries.toList := by
    induction entries.toList with
    | nil => rfl
    | cons entry tail tailFact => simp [reads, tailFact]
  rw [map?, members, Option.map_some, NameMap.ofList_toList]

theorem allReadable_map {Value : Type} (write : Value → Json)
    (readable : ∀ value, (write value).isReadable = true)
    (values : List Value) :
    allReadable (values.map write) = true := by
  induction values with
  | nil => rfl
  | cons value values valuesFact => simp [allReadable, readable, valuesFact]

theorem membersReadable_map {Value : Type} (write : Value → Json)
    (readable : ∀ value, (write value).isReadable = true)
    (entries : List (String × Value)) :
    membersReadable (entries.map fun entry => (entry.1, write entry.2)) =
      true := by
  induction entries with
  | nil => rfl
  | cons entry tail tailFact => simp [membersReadable, readable, tailFact]

/-- A field that is given is read as it is given. -/
theorem Fields.orElse_of_lookup {Value : Type} {fields : Fields} {name : String}
    {value : Json} (given : fields.given.lookup name = some value)
    (absent : Value) (read : Json → Option Value) :
    fields.orElse name absent read = read value := by
  rw [orElse, given]

end Json

/-- The fields that a written policy gives. -/
def Policy.fields (policy : Policy) : Json.Fields :=
  ⟨[("auto_switch_enabled", .bool policy.enabled),
    ("auto_switch_target_group", .text policy.targetGroup),
    ("auto_switch_candidate_proxies",
      .array (policy.candidates.toList.map Json.text)),
    ("auto_switch_probe_interval_seconds",
      .int policy.probeIntervalSeconds.toNat),
    ("auto_switch_switch_cooldown_seconds", .int policy.cooldownSeconds.toNat),
    ("auto_switch_prefer_stable_only", .bool policy.preferStableOnly)]⟩

theorem Policy.ofJson?_toJson (policy : Policy) :
    ofJson? policy.toJson = some policy := by
  have fields : policy.toJson.fields? fieldNames = some policy.fields := rfl
  have candidates : policy.fields.orElse "auto_switch_candidate_proxies"
      initial.candidates Json.names? = some policy.candidates :=
    Json.names?_toList policy.candidates
  have probeInterval : policy.fields.orElse "auto_switch_probe_interval_seconds"
      initial.probeIntervalSeconds Json.word64? =
        some policy.probeIntervalSeconds :=
    Json.word64?_toNat policy.probeIntervalSeconds
  have cooldown : policy.fields.orElse "auto_switch_switch_cooldown_seconds"
      initial.cooldownSeconds Json.word64? = some policy.cooldownSeconds :=
    Json.word64?_toNat policy.cooldownSeconds
  rw [ofJson?, fields]
  simp only [Option.bind_eq_bind, Option.bind_some, candidates,
    probeInterval, cooldown]
  rfl

/-- The fields that a written status gives. -/
def StatusRecord.fields (record : StatusRecord) : Json.Fields :=
  ⟨[("auto_switch_last_status_timestamp", .int record.timestampMillis.toInt),
    ("auto_switch_last_status_message", .text record.message)]⟩

theorem StatusRecord.ofJson?_toJson (record : StatusRecord) :
    ofJson? record.toJson = some record := by
  have fields : record.toJson.fields? fieldNames = some record.fields := rfl
  have timestamp : record.fields.orElse "auto_switch_last_status_timestamp"
      0 Json.int64? = some record.timestampMillis :=
    Json.int64?_toInt record.timestampMillis
  rw [ofJson?, fields]
  simp only [Option.bind_eq_bind, Option.bind_some, timestamp]
  rfl

theorem Selection.ofJson?_toJson (selection : Selection) :
    ofJson? selection.toJson = some selection := rfl

/-- The fields that a written timing gives. -/
def Timing.fields (timing : Timing) : Json.Fields :=
  ⟨[("min_interval_ms", .int timing.minInterval.toNat),
    ("max_interval_ms", .int timing.maxInterval.toNat),
    ("fast_retry_ms", .int timing.fastRetry.toNat),
    ("health_check_timeout_ms", .int timing.healthCheckTimeout.toNat),
    ("min_improvement_ms", .int timing.minImprovement.toNat),
    ("confirm_attempts", .int timing.confirmAttempts.toNat),
    ("confirm_interval_ms", .int timing.confirmInterval.toNat)]⟩

theorem Timing.ofJson?_toJson (timing : Timing) :
    ofJson? timing.toJson = some timing := by
  have fields : timing.toJson.fields? fieldNames = some timing.fields := rfl
  have given := @Json.Fields.orElse_of_lookup UInt64 timing.fields
  have counted := @Json.Fields.orElse_of_lookup UInt32 timing.fields
  rw [ofJson?, fields, Option.bind_eq_bind, Option.bind_some, given rfl,
    given rfl, given rfl, given rfl, counted rfl, counted rfl, given rfl]
  simp only [Json.word64?_toNat, Json.word32?_toNat, Option.bind_eq_bind,
    Option.bind_some]

theorem Proxy.ofJson?_toJson (proxy : Proxy) :
    ofJson? proxy.toJson = some proxy := by
  have read : ofJson? proxy.toJson =
      (do some ⟨proxy.name, proxy.title,
        ← Delay.ofJson? proxy.delay.toJson⟩) := by
    rfl
  simp [read]

theorem Group.ofJson?_toJson (group : Group) :
    ofJson? group.toJson = some group := by
  have read : ofJson? group.toJson =
      (do
        let members ← Json.list? Proxy.ofJson?
          (.array (group.members.map Proxy.toJson))
        some ⟨group.name, group.selected, members⟩) := by
    rfl
  simp [read, Json.list?_map Proxy.ofJson?_toJson]

theorem Policy.isReadable_toJson (policy : Policy) :
    policy.toJson.isReadable = true := by
  have candidates :=
    Json.allReadable_map Json.text (fun _ => rfl) policy.candidates.toList
  simp [toJson, Json.isReadable, Json.membersReadable, candidates]

theorem StatusRecord.isReadable_toJson (record : StatusRecord) :
    record.toJson.isReadable = true := by
  simp [toJson, Json.isReadable, Json.membersReadable]

theorem Selection.isReadable_toJson (selection : Selection) :
    selection.toJson.isReadable = true := rfl

theorem Timing.isReadable_toJson (timing : Timing) :
    timing.toJson.isReadable = true := rfl

theorem Proxy.isReadable_toJson (proxy : Proxy) :
    proxy.toJson.isReadable = true := rfl

theorem Group.isReadable_toJson (group : Group) :
    group.toJson.isReadable = true := by
  have members :=
    Json.allReadable_map Proxy.toJson Proxy.isReadable_toJson group.members
  simp [toJson, Json.isReadable, Json.membersReadable, members]

namespace Store.SelectionMap

theorem ofJson?_toJson (entries : SelectionMap) :
    ofJson? (toJson entries) = some entries :=
  Json.map?_toList (Json.map?_toList Json.text?_text) entries

theorem isReadable_toJson (entries : SelectionMap) :
    (toJson entries).isReadable = true := by
  rw [toJson, Json.isReadable]
  refine Json.membersReadable_map (fun groups => .object (groups.toList.map
    fun selection => (selection.1, .text selection.2))) (fun groups =>
      ?_) entries.toList
  rw [Json.isReadable]
  exact Json.membersReadable_map Json.text (fun _ => rfl) groups.toList

end Store.SelectionMap

end Switchyard
