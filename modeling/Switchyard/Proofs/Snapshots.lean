import Mathlib.Data.List.Forall2
import Mathlib.Data.List.Induction
import Switchyard.Controller.Client
import Switchyard.Proofs.ListedOrder

/-!
# What a query finds

A query asks the controller about the group and then about all proxies. The
first answer says what is selected and which members there are, the second one
how each proxy was measured. If both answers can be read, the members of the
first one come out in the order that was asked for, each with the last of its
measurements in the second one. If not, the error tells what was wrong with the
first answer that could not be used.
-/

namespace Switchyard

/-- What some measurements say about a delay, of which the last one counts. -/
inductive Delay.Reported (measurements : List Int) : Delay → Prop where
  | unmeasured : measurements = [] → Reported measurements .unknown
  | measured (millis : Fin 32768) :
    measurements.getLast? = some (millis.val : Int) →
    0 < millis.val → Reported measurements (.stable millis)
  | failed : measurements.getLast? = some 0 → Reported measurements .timeout
  | strange (millis : Int) : measurements.getLast? = some millis → millis < 0 ∨
    32767 < millis → Reported measurements .unknown

theorem Delay.reported_ofMeasurements (measurements : List Int) :
    Delay.Reported measurements (ofMeasurements measurements) := by
  unfold ofMeasurements
  split
  · exact .unmeasured (List.getLast?_eq_none_iff.1 ‹_›)
  · next last found =>
    by_cases zero : last = 0
    · subst zero
      exact .failed found
    · rw [if_neg zero]
      by_cases positive : 0 < last
      · rw [if_pos positive, ofMillis]
        by_cases bounds : 0 ≤ last ∧ last < 32768
        · rw [dif_pos bounds]
          have same : ((last.toNat : Nat) : Int) = last :=
            Int.toNat_of_nonneg bounds.1
          apply Delay.Reported.measured
          · rw [found, same]
          · change 0 < last.toNat
            omega
        · have negative : last ≠ -1 := by omega
          rw [dif_neg bounds, if_neg negative]
          apply Delay.Reported.strange last found
          omega
      · rw [if_neg positive]
        apply Delay.Reported.strange last found
        omega

section Entries

variable {Value : Type}

/-- In the map of a list of entries a name leads to the value of its last
entry. -/
theorem NameMap.find?_ofList (entries : List (String × Value)) (name : String) :
    (ofList entries).find? name = entries.reverse.lookup name := by
  induction entries using List.reverseRecOn with
  | nil => rfl
  | append_singleton former last formerFact =>
    have whole : ofList (former ++ [last]) =
        (ofList former).insert last.1 last.2 := by
      rw [ofList, List.foldl_append]
      rfl
    rw [whole, find?_insert, formerFact, List.reverse_append,
      List.reverse_singleton, List.singleton_append, List.lookup_cons]
    by_cases same : name = last.1
    · simp [same]
    · simp [same, beq_eq_false_iff_ne.2 same]

namespace Json

variable {read : Json → Option Value} {members : List (String × Json)}
  {entries : List (String × Value)}

/-- Whether each entry was read from the member at the same place. -/
def ReadFrom (read : Json → Option Value) :
    List (String × Json) → List (String × Value) → Prop :=
  List.Forall₂ fun member entry =>
    entry.1 = member.1 ∧ read member.2 = some entry.2

theorem readFrom_of_mapM
    (made : members.mapM (fun member => (read member.2).map (member.1, ·)) =
      some entries) :
    ReadFrom read members entries := by
  induction members generalizing entries with
  | nil =>
    obtain rfl : [] = entries := Option.some.inj made
    exact .nil
  | cons member members membersFact =>
    rw [List.mapM_cons] at made
    obtain ⟨entry, first, made⟩ := Option.bind_eq_some_iff.1 made
    obtain ⟨others, rest, made⟩ := Option.bind_eq_some_iff.1 made
    obtain rfl : entry :: others = entries := Option.some.inj made
    obtain ⟨value, decoded, rfl⟩ := Option.map_eq_some_iff.1 first
    exact .cons ⟨rfl, decoded⟩ (membersFact rest)

/-- What a name leads to among the entries is what was read where it leads to
among the members. -/
theorem ReadFrom.lookup (readFrom : ReadFrom read members entries)
    (name : String) :
    (members.lookup name).map read = (entries.lookup name).map some := by
  induction readFrom with
  | nil => rfl
  | @cons member entry members entries fact _ restFact =>
    rw [List.lookup_cons, List.lookup_cons, fact.1]
    by_cases same : (name == member.1) = true
    · simp only [same, Option.map_some, fact.2]
    · simp only [same, restFact]

/-- What a map leads to is read from the last member of that name. -/
theorem find?_of_map? {value : Json} {map : NameMap Value}
    (decoded : value.map? read = some map) (name : String) :
    ∃ members, value = .object members ∧
      (members.reverse.lookup name).map read = (map.find? name).map some := by
  cases value with
  | object members =>
    obtain ⟨entries, made, rfl⟩ := Option.map_eq_some_iff.1 decoded
    refine ⟨members, rfl, ?_⟩
    rw [NameMap.find?_ofList]
    exact ReadFrom.lookup
      (List.forall₂_reverse_iff.2 (readFrom_of_mapM made)) name
  | null => cases decoded
  | bool _ => cases decoded
  | int _ => cases decoded
  | text _ => cases decoded
  | array _ => cases decoded
  | unreadable => cases decoded

end Json

end Entries

namespace MemberOrder

/-- Whether two proxies may stand in either order. -/
def ties (order : MemberOrder) (left right : Proxy) : Bool :=
  order.precedes left right && order.precedes right left

/-- Whether members are those of a list in the order that is asked for, where
those that tie stay as they are listed. -/
structure Arranges (order : MemberOrder) (listed members : List Proxy) :
    Prop where
  perm : members.Perm listed
  ordered : members.Pairwise fun left right => order.precedes left right = true
  stable : ∀ proxy, members.filter (order.ties proxy) =
    listed.filter (order.ties proxy)

/-- Proxies that tie with one proxy tie with each other. -/
theorem precedes_of_ties {order : MemberOrder} {proxy left right : Proxy}
    (first : order.ties proxy left = true)
    (second : order.ties proxy right = true) :
    order.precedes left right = true := by
  simp only [ties, Bool.and_eq_true] at first second
  exact order.precedes_trans left proxy right first.2 second.1

theorem arranges_sort (order : MemberOrder) (listed : List Proxy) :
    order.Arranges listed (order.sort listed) where
  perm := order.sort_perm listed
  ordered := order.pairwise_sort listed
  stable := fun _ =>
    filter_sort fun _ _ _ _ first second => precedes_of_ties first second

end MemberOrder

namespace Controller

/-- The measurements that are written of a proxy, the last one at the end. -/
def Entry.measurements (value : Json) : List Int :=
  ((value.fields? ["name", "type", "now", "all", "history"]).bind fun fields =>
    fields.orElse "history" [] (Json.list? measurement?)).getD []

/-- What is written about a proxy in a list of all proxies, at last if it is
written more than once. -/
def writtenOf? (list : Json) (name : String) : Option Json :=
  match (list.fields? ["proxies"]).bind fun fields =>
    fields.given.lookup "proxies" with
  | some (.object members) => members.reverse.lookup name
  | _ => none

theorem Entry.delay_of_ofJson? {value : Json} {entry : Entry}
    (decoded : ofJson? value = some entry) :
    entry.delay = Delay.ofMeasurements (measurements value) := by
  simp only [ofJson?, Option.bind_eq_bind, Option.bind_eq_some_iff,
    Option.some.injEq] at decoded
  obtain ⟨fields, written, _, _, _, _, _, _, _, _, measured, history, rfl⟩ :=
    decoded
  rw [measurements, written, Option.bind_some, history, Option.getD_some]

theorem find?_of_entries? {list : Json} {entries : NameMap Entry}
    (decoded : entries? list = some entries) (name : String) :
    (writtenOf? list name).map Entry.ofJson? =
      (entries.find? name).map some := by
  obtain ⟨fields, written, decoded⟩ := Option.bind_eq_some_iff.1 decoded
  unfold Json.Fields.orElse at decoded
  unfold writtenOf?
  rw [written, Option.bind_some]
  cases given : fields.given.lookup "proxies" with
  | none =>
    rw [given] at decoded
    obtain rfl := Option.some.inj decoded
    rfl
  | some value =>
    rw [given] at decoded
    obtain ⟨members, rfl, found⟩ := Json.find?_of_map? decoded name
    exact found

/-- What a list of all proxies says about the delay of one. -/
def measurementsOf (list : Json) (name : String) : List Int :=
  ((writtenOf? list name).map Entry.measurements).getD []

theorem delay_of_entries? {list : Json} {entries : NameMap Entry}
    (decoded : entries? list = some entries) (name : String) :
    ((entries.find? name).map Entry.delay).getD .unknown =
      Delay.ofMeasurements (measurementsOf list name) := by
  have found := find?_of_entries? decoded name
  unfold measurementsOf
  cases written : writtenOf? list name with
  | none =>
    rw [written, Option.map_none, eq_comm, Option.map_eq_none_iff] at found
    rw [found]
    rfl
  | some value =>
    rw [written, Option.map_some, eq_comm, Option.map_eq_some_iff] at found
    obtain ⟨entry, among, decoded⟩ := found
    rw [among]
    exact Entry.delay_of_ofJson? decoded.symm

/-! ## Single answers -/

/-- Whether an answer is one of success. -/
def Response.Succeeds (response : Response) : Prop :=
  200 ≤ response.status ∧ response.status < 300

/-- Whether a body is JSON that a reader makes something of. -/
def Response.Holds {Value : Type} (response : Response)
    (read : Json → Option Value) (value : Value) : Prop :=
  ∃ written, Json.parse? response.body = some written ∧
    read written = some value

/-- Whether an answer is a success with a body that a reader makes something
of. -/
def Response.Gives {Value : Type} (response : Response)
    (read : Json → Option Value) (value : Value) : Prop :=
  response.Succeeds ∧ response.Holds read value

/-- What is wrong with an answer that is not a success with a body that can be
read. -/
inductive Response.Fault {Value : Type} (read : Json → Option Value)
    (response : Response) :
    ControllerError → Prop where
  | refused : ¬ response.Succeeds →
    Fault read response (.api response.status (failureMessage response.body))
  | unreadable : response.Succeeds → (∀ value, ¬ response.Holds read value) →
    Fault read response (.invalidResponse "error decoding response body")

section Answers

variable {Value : Type} {read : Json → Option Value} {response : Response}

/-- What is read from an answer, whichever answer it is. -/
def received (read : Json → Option Value) (response : Response) :
    Except ControllerError Value :=
  if response.isSuccess then decode read response
  else .error (failureOf response)

theorem Response.isSuccess_iff :
    response.isSuccess = true ↔ response.Succeeds := decide_eq_true_iff

theorem Response.holds_iff {value : Value} :
    response.Holds read value ↔
      (Json.parse? response.body).bind read = some value :=
  Option.bind_eq_some_iff.symm

theorem decode_eq_ok_iff {value : Value} :
    decode read response = .ok value ↔ response.Holds read value := by
  rw [Response.holds_iff, decode]
  cases (Json.parse? response.body).bind read with
  | none => simp
  | some other => simp

theorem decode_eq_error_iff {error : ControllerError} :
    decode read response = .error error ↔
      (∀ value, ¬ response.Holds read value) ∧
        error = .invalidResponse "error decoding response body" := by
  simp only [Response.holds_iff, decode]
  cases (Json.parse? response.body).bind read with
  | none => simp [eq_comm]
  | some other => simp

theorem received_eq_ok_iff {value : Value} :
    received read response = .ok value ↔ response.Gives read value := by
  rw [received, Response.Gives, ← decode_eq_ok_iff, ← Response.isSuccess_iff]
  by_cases succeeds : response.isSuccess = true
  · rw [if_pos succeeds]
    exact (and_iff_right succeeds).symm
  · rw [if_neg succeeds]
    exact iff_of_false (fun given => nomatch given) fun both => succeeds both.1

theorem received_eq_error_iff {error : ControllerError} :
    received read response = .error error ↔ response.Fault read error := by
  unfold received
  by_cases succeeds : response.isSuccess = true
  · rw [if_pos succeeds, decode_eq_error_iff]
    rw [Response.isSuccess_iff] at succeeds
    constructor
    · rintro ⟨unreadable, rfl⟩
      exact .unreadable succeeds unreadable
    · rintro (refused | ⟨-, unreadable⟩)
      · exact absurd succeeds refused
      · exact ⟨unreadable, rfl⟩
  · rw [if_neg succeeds]
    rw [Response.isSuccess_iff] at succeeds
    constructor
    · intro given
      cases given
      exact .refused succeeds
    · rintro (refused | ⟨succeeded, -⟩)
      · rfl
      · exact absurd succeeded succeeds

end Answers

/-- Why a query fails. What is wrong with the answer about the group comes
first. -/
inductive QueryFault (group : String) (groupAnswer listAnswer : Response) :
    ControllerError → Prop where
  | noSuchGroup : groupAnswer.status = 404 →
    QueryFault group groupAnswer listAnswer (.groupNotFound group)
  | groupFault {error : ControllerError} : groupAnswer.status ≠ 404 →
    groupAnswer.Fault Entry.ofJson? error →
    QueryFault group groupAnswer listAnswer error
  | noMembers (entry : Entry) : groupAnswer.Gives Entry.ofJson? entry →
    entry.members = none →
    QueryFault group groupAnswer listAnswer
      (.invalidResponse (group ++ " is not a proxy group"))
  | listFault {error : ControllerError} (entry : Entry)
    (members : List String) : groupAnswer.Gives Entry.ofJson? entry →
      entry.members = some members →
    listAnswer.Fault entries? error →
    QueryFault group groupAnswer listAnswer error

/-- Whether a proxy is what a list of all proxies says about a name. -/
structure IsMeasured (list : Json) (name : String) (proxy : Proxy) : Prop where
  named : proxy.name = name
  untitled : proxy.title = ""
  reported : Delay.Reported (measurementsOf list name) proxy.delay

/-- Whether a group that was found is what the two answers say, in the order
that was asked for. -/
structure Describes (group : String) (order : MemberOrder) (entry : Entry)
    (members : List String) (list : Json) (found : Group) : Prop where
  named : found.name = group
  selects : found.selected = entry.selected.getD ""
  perm : found.memberNames.Perm members
  arranged : ∃ listed, List.Forall₂ (IsMeasured list) members listed ∧
    order.Arranges listed found.members

namespace Client

/-- Responses that are at hand answer the requests one after the other. -/
def answerInTurn (_ : Request) : List Response → Reply × List Response
  | [] => (.error (.broken ""), [])
  | response :: later => (.ok response, later)

/-- What a query comes to if it gets one answer about the group and one about
all proxies. -/
def queried (client : Client) (group : String) (order : MemberOrder)
    (groupAnswer listAnswer : Response) : Except ControllerError Group :=
  ((client.query group order).complete answerInTurn [groupAnswer, listAnswer]).1

variable {client : Client} {group : String} {order : MemberOrder}
  {groupAnswer listAnswer : Response}

theorem groupEntry_of_ne (known : groupAnswer.status ≠ 404) :
    groupEntry group groupAnswer = received Entry.ofJson? groupAnswer :=
  if_neg known

theorem groupEntry_eq_ok_iff {entry : Entry} :
    groupEntry group groupAnswer = .ok entry ↔
      groupAnswer.Gives Entry.ofJson? entry := by
  by_cases known : groupAnswer.status = 404
  · rw [groupEntry, if_pos known]
    refine iff_of_false (fun given => nomatch given) fun gives => ?_
    have bounds := gives.1
    rw [Response.Succeeds, known] at bounds
    omega
  · rw [groupEntry_of_ne known, received_eq_ok_iff]

theorem queried_of_groupEntry_error {error : ControllerError}
    (failed : groupEntry group groupAnswer = .error error) :
    client.queried group order groupAnswer listAnswer = .error error := by
  simp [queried, query, send, answerInTurn, Routine.complete,
    Except.bind, failed]

theorem queried_of_no_members {entry : Entry}
    (given : groupEntry group groupAnswer = .ok entry)
    (memberless : entry.members = none) :
    client.queried group order groupAnswer listAnswer =
      .error (.invalidResponse (group ++ " is not a proxy group")) := by
  simp [queried, query, send, answerInTurn, Routine.complete, Except.bind,
    given, memberless]

theorem queried_of_members {entry : Entry} {members : List String}
    (given : groupEntry group groupAnswer = .ok entry)
    (listed : entry.members = some members) :
    client.queried group order groupAnswer listAnswer =
      (received entries? listAnswer).map
        (groupOf group order entry.selected members) := by
  simp [queried, query, send, answerInTurn, Routine.complete, Except.bind,
    given, listed]
  rfl

theorem groupEntry_eq_error_iff {error : ControllerError} :
    groupEntry group groupAnswer = .error error ↔
      (groupAnswer.status = 404 ∧ error = .groupNotFound group) ∨
        groupAnswer.status ≠ 404 ∧ groupAnswer.Fault Entry.ofJson? error := by
  by_cases known : groupAnswer.status = 404
  · rw [groupEntry, if_pos known]
    simp [known, eq_comm]
  · rw [groupEntry_of_ne known, received_eq_error_iff]
    simp [known]

theorem queried_eq_error_iff {error : ControllerError} :
    client.queried group order groupAnswer listAnswer = .error error ↔
      QueryFault group groupAnswer listAnswer error := by
  constructor
  · intro failed
    cases given : groupEntry group groupAnswer with
    | error fault =>
      rw [queried_of_groupEntry_error given] at failed
      obtain rfl := Except.error.inj failed
      rcases groupEntry_eq_error_iff.1 given with
        ⟨unknown, rfl⟩ | ⟨known, fault⟩
      · exact .noSuchGroup unknown
      · exact .groupFault known fault
    | ok entry =>
      have gives := groupEntry_eq_ok_iff.1 given
      cases listed : entry.members with
      | none =>
        rw [queried_of_no_members given listed] at failed
        obtain rfl := Except.error.inj failed
        exact .noMembers entry gives listed
      | some members =>
        rw [queried_of_members given listed] at failed
        cases received : received entries? listAnswer with
        | error fault =>
          rw [received] at failed
          obtain rfl := Except.error.inj failed
          exact .listFault entry members gives listed
            (received_eq_error_iff.1 received)
        | ok entries =>
          rw [received] at failed
          cases failed
  · intro fault
    cases fault with
    | noSuchGroup unknown =>
      exact queried_of_groupEntry_error
        (groupEntry_eq_error_iff.2 (.inl ⟨unknown, rfl⟩))
    | groupFault known fault =>
      exact queried_of_groupEntry_error
        (groupEntry_eq_error_iff.2 (.inr ⟨known, fault⟩))
    | noMembers entry gives memberless =>
      exact queried_of_no_members (groupEntry_eq_ok_iff.2 gives) memberless
    | listFault entry members gives listed fault =>
      rw [queried_of_members (groupEntry_eq_ok_iff.2 gives) listed,
        received_eq_error_iff.2 fault]
      rfl

theorem queried_eq_ok_iff {found : Group} :
    client.queried group order groupAnswer listAnswer = .ok found ↔
      ∃ entry members entries, groupAnswer.Gives Entry.ofJson? entry ∧
        entry.members = some members ∧ listAnswer.Gives entries? entries ∧
        found = groupOf group order entry.selected members entries := by
  constructor
  · intro succeeded
    cases given : groupEntry group groupAnswer with
    | error fault =>
      rw [queried_of_groupEntry_error given] at succeeded
      cases succeeded
    | ok entry =>
      cases listed : entry.members with
      | none =>
        rw [queried_of_no_members given listed] at succeeded
        cases succeeded
      | some members =>
        rw [queried_of_members given listed] at succeeded
        cases received : received entries? listAnswer with
        | error fault =>
          rw [received] at succeeded
          cases succeeded
        | ok entries =>
          rw [received] at succeeded
          exact ⟨entry, members, entries, groupEntry_eq_ok_iff.1 given, listed,
            received_eq_ok_iff.1 received, (Except.ok.inj succeeded).symm⟩
  · rintro ⟨entry, members, entries, gives, listed, listGives, rfl⟩
    rw [queried_of_members (groupEntry_eq_ok_iff.2 gives) listed,
      received_eq_ok_iff.2 listGives]
    rfl

/-- The group that is made of two answers is the one they describe. -/
theorem describes_groupOf {entry : Entry} {members : List String} {list : Json}
    {entries : NameMap Entry} (decoded : entries? list = some entries) :
    Describes group order entry members list
      (groupOf group order entry.selected members entries) := by
  let proxy (member : String) : Proxy :=
    ⟨member, "", ((entries.find? member).map Entry.delay).getD .unknown⟩
  have measured (name : String) : IsMeasured list name (proxy name) := by
    refine ⟨rfl, rfl, ?_⟩
    have reported := Delay.reported_ofMeasurements (measurementsOf list name)
    rwa [← delay_of_entries? decoded] at reported
  have names : (members.map proxy).map Proxy.name = members := by
    rw [List.map_map]
    exact List.map_id members
  refine ⟨rfl, rfl, ?_, members.map proxy, ?_, order.arranges_sort _⟩
  · have perm :=
      Group.memberNames_sorted_perm ⟨group, entry.selected.getD "",
          members.map proxy⟩
        order
    rwa [Group.memberNames, Group.memberNames, names] at perm
  · rw [List.forall₂_map_right_iff]
    exact List.forall₂_same.2 fun name _ => measured name

/-- A query finds the group exactly if the first answer is a success that lists
members and the second one is a success too, and both can be read. What it finds
is what the answers say: the members of the first one, sorted as was asked for,
each with what the second one reports last. If it fails it tells what is wrong
with the first of the two answers that cannot be used. -/
theorem query_joins_two_answers (client : Client) (group : String)
    (order : MemberOrder) (groupAnswer listAnswer : Response) :
    let outcome := client.queried group order groupAnswer listAnswer
    ((∃ found, outcome = .ok found) ↔
      (∃ entry members, groupAnswer.Gives Entry.ofJson? entry ∧
          entry.members = some members) ∧
        ∃ entries, listAnswer.Gives entries? entries) ∧
      (∀ found, outcome = .ok found →
        ∃ entry members list, groupAnswer.Gives Entry.ofJson? entry ∧
          entry.members = some members ∧
          Json.parse? listAnswer.body = some list ∧
          Describes group order entry members list found) ∧
      ∀ error, outcome = .error error ↔
        QueryFault group groupAnswer listAnswer error := by
  intro outcome
  refine ⟨⟨?_, ?_⟩, ?_, fun error => queried_eq_error_iff⟩
  · rintro ⟨found, succeeded⟩
    obtain ⟨entry, members, entries, gives, listed, listGives, -⟩ :=
      queried_eq_ok_iff.1 succeeded
    exact ⟨⟨entry, members, gives, listed⟩, entries, listGives⟩
  · rintro ⟨⟨entry, members, gives, listed⟩, entries, listGives⟩
    exact ⟨_, queried_eq_ok_iff.2 ⟨entry, members, entries, gives, listed,
      listGives, rfl⟩⟩
  · intro found succeeded
    obtain ⟨entry, members, entries, gives, listed,
        ⟨-, list, parsed, decoded⟩, rfl⟩ :=
      queried_eq_ok_iff.1 succeeded
    exact ⟨entry, members, list, gives, listed, parsed,
      describes_groupOf decoded⟩

end Client

end Controller

end Switchyard
