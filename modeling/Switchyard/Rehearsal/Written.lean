import Switchyard.Failure.Written
import Switchyard.Rehearsal.Run
import Switchyard.Rehearsal.Service
import Switchyard.Rehearsal.Waits
import Switchyard.Rehearsal.Watching

/-!
# Rehearsals in JSON

What is rehearsed is written in JSON: the script of the controller, the faults
of the store, and what is done to the loop from outside. What can be seen is
written in JSON as well.
-/

namespace Switchyard

def Report.ofJson? (value : Json) : Option Report := do
  let group := value.textAt "group"
  let target := value.textAt "target"
  let optionalText (name : String) := value.optional name Json.text?
  match ← value.textAt "kind" with
  | "disabled" => some .disabled
  | "waiting-group" => some .waitingForGroup
  | "waiting-candidates" => some (.waitingForCandidates (← group))
  | "missing-candidates" =>
    some (.missingCandidates (← group)
      (← value.required "available" Json.texts?))
  | "no-preferred-candidate" => some (.noPreferredCandidate (← group))
  | "already-optimal" =>
    some (.alreadyOptimal (← group) (← value.textAt "desired"))
  | "cooldown" =>
    some (.cooldown (← group) (← optionalText "current")
      (← value.natAt "remaining_secs"))
  | "no-improvement" =>
    some (.noImprovement (← group) (← optionalText "current"))
  | "applied" =>
    some
      (.applied (← group) (← target) (← value.required "delay" Delay.ofJson?))
  | "forced" =>
    some (.forced (← group) (← target) (← value.required "delay" Delay.ofJson?)
      (← optionalText "previous"))
  | "apply-failed" => some (.applyFailed (← group) (← target))
  | "confirm-failed" =>
    some (.confirmFailed (← group) (← target) (← optionalText "observed"))
  | "error" => some (.failure (← value.textAt "message"))
  | _ => none

namespace Rehearsal

/-- The change of a controller that one member of a script asks for. -/
def Controller.change? (name : String) (given : Json) :
    Option (Controller → Controller) :=
  match name with
  | "members" =>
    (given.list? Proxy.ofJson?).map fun members controller =>
      { controller with members := members }
  | "now" => given.text?.map fun selected controller =>
    { controller with selected := selected }
  | "accept" => given.bool?.map fun accepts controller =>
    { controller with accepts := accepts }
  | "follow_after" =>
    (Json.orNull? (Json.nat? UInt64.size) given).map fun count controller =>
      { controller with followAfter := count }
  | "probe_delay_ms" =>
    (given.nat? UInt64.size).map fun millis controller =>
      { controller with probeDelay := millis }
  | "probe_error" =>
    (Json.orNull? ControllerError.ofJson? given).map fun error controller =>
      { controller with probeError := error }
  | "query_error" =>
    (Json.orNull? ControllerError.ofJson? given).map fun error controller =>
      { controller with queryError := error }
  | "apply_error" =>
    (Json.orNull? ControllerError.ofJson? given).map fun error controller =>
      { controller with applyError := error }
  | "query_ok_left" =>
    (given.nat? UInt64.size).map fun count controller =>
      { controller with queriesLeft := count }
  | _ => none

def Controller.changes? : Json → Option (List (Controller → Controller))
  | .object members =>
    members.mapM fun member => Controller.change? member.1 member.2
  | .null => some []
  | _ => none

def Controller.ofJson? (value : Json) : Option Controller := do
  some ((← Controller.changes? value).foldl
    (fun controller change => change controller) .plain)

def StoreFaults.ofJson? : Json → Option StoreFaults
  | .null => some .none
  | .object members => do
    let reasons ← members.mapM fun member => member.2.text?.map (member.1, ·)
    some ⟨reasons.lookup "snapshot", reasons.lookup "stored",
      reasons.lookup "update", reasons.lookup "record"⟩
  | _ => Option.none

def notice? (value : Json) : Option Notice := value.text?.bind Notice.ofName?

def Act.ofJson? (value : Json) : Option Act := do
  match ← value.textAt "do" with
  | "advance" => some (.advance (← value.natAt "ms"))
  | "engine" => some (.script (← value.required "set" Controller.changes?))
  | "config" => some (.policy (← value.required "config" Policy.ofJson?))
  | "profile" => some (.profile (← value.optional "profile" Json.text?))
  | "store_errors" =>
    some (.storeFaults (← value.required "set" StoreFaults.ofJson?))
  | "selection_error" =>
    some (.selectionFault (← value.optional "text" Json.text?))
  | "notify" =>
    let times ← value.orElse "times" 1 (Json.nat? UInt64.size)
    some (.notify (← value.required "kind" notice?) times)
  | "signal" =>
    some (.signal (← ControlSignal.ofName? (← value.textAt "signal")))
  | "cancel" => some .cancel
  | _ => none

def Happening.ofJson? : Json → Option (Nat × Happening)
  | .array [moment, name] => do
    let happening ← match ← name.text? with
      | "cancel" => some .cancel
      | "drop" => some .close
      | name => (Notice.ofName? name).map Happening.notice
    some (← moment.nat? UInt64.size, happening)
  | _ => none

def FileAct.ofJson? (step : Json) : Option FileAct := do
  let has (name : String) : Bool := step.member name != .null
  if has "write" then some (.write (← step.required "write" Json.texts?))
  else if has "remove" then
    some (.remove (← step.required "remove" Json.texts?))
  else if has "rename" then
    match ← step.required "rename" Json.texts? with
    | [source, target] => some (.rename source target)
    | _ => none
  else if has "cancel" then some .cancel
  else none

/-- The deed that is written, and whether its effect is waited for. -/
def Deed.ofJson? (step : Json) : Option (Deed × Bool) := do
  let isAwaited ← step.orElse "wait" true Json.bool?
  match step.member "edit", step.member "signal" with
  | .text content, _ => some (.edit (Bytes.ofText content), isAwaited)
  | _, .text "STOP" => some (.signal .terminate, isAwaited)
  | _, .text "RELOAD" => some (.signal .hangUp, isAwaited)
  | _, .text "INT" => some (.signal .interrupt, isAwaited)
  | _, _ => none

/-- The written form of a call with the millisecond at which it came. -/
def Call.toJson (entry : Nat × Call) : Json :=
  let words := match entry.2 with
    | .probe group => ["probe", group]
    | .query group order => ["query", group, order.name]
    | .apply group proxy => ["apply", group, proxy]
  .array (.ofNat entry.1 :: words.map Json.text)

def attemptToJson (selection : Selection) : Json :=
  .array [.text selection.profile, .text selection.group, .text selection.proxy]

def Sight.toJson (sight : Sight) : Json :=
  .object [
    ("t", .ofNat sight.millis), ("calls", .array (sight.calls.map Call.toJson)),
    ("statuses", .array (sight.messages.map Json.text)),
    ("now", .text sight.selected),
    ("stored", sight.stored.toJson), ("metrics", sight.tally.toJson),
    ("exit", .ofText? (sight.exit.map Control.Exit.name)),
    ("saves", .array (sight.attempts.map attemptToJson)),
    ("subscribers", .ofNat sight.receivers)]

def wakeToJson : Option (Control.Wake × Nat) → Json
  | none => .text "never"
  | some (wake, millis) =>
    let shown := match wake with
      | .event notice => [.text "event", .text notice.name]
      | .lagged missed => [.text "lagged", .ofNat missed]
      | .timeout => [.text "timeout"]
      | .cancelled => [.text "cancelled"]
      | .closed => [.text "closed"]
    .object [("wake", .array shown), ("is_event", .bool wake.isEvent),
      ("t", .ofNat millis)]

end Rehearsal

end Switchyard
