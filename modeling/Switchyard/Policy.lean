import Switchyard.Duration
import Switchyard.Json.Fields
import Switchyard.Text.Blank

/-!
# The switching policy

The policy is what the user may change while the program runs: whether switching
is on, which group it works on, which proxies it may choose, how often it looks
and how long it rests after a switch. It is stored as it was given; the two
periods are raised to their least values when it is used.
-/

namespace Switchyard

/-- The user's wishes about switching. -/
structure Policy where
  enabled : Bool
  targetGroup : String
  candidates : NameSet
  probeIntervalSeconds : UInt64
  cooldownSeconds : UInt64
  preferStableOnly : Bool
deriving DecidableEq

namespace Policy

/-- The policy of a user who has not said anything: switching is off. -/
def initial : Policy where
  enabled := false
  targetGroup := "GLOBAL"
  candidates := NameSet.empty
  probeIntervalSeconds := 60
  cooldownSeconds := 30
  preferStableOnly := true

instance : Inhabited Policy := ⟨initial⟩

def leastProbeInterval : UInt64 := 15

def leastCooldown : UInt64 := 5

def clamped (policy : Policy) : Policy :=
  { policy with
    probeIntervalSeconds := max policy.probeIntervalSeconds leastProbeInterval
    cooldownSeconds := max policy.cooldownSeconds leastCooldown }

def hasTargetGroup (policy : Policy) : Bool := !Text.isBlank policy.targetGroup

def probeInterval (policy : Policy) : Nat :=
  Duration.ofSeconds policy.probeIntervalSeconds.toNat

def cooldown (policy : Policy) : Nat :=
  Duration.ofSeconds policy.cooldownSeconds.toNat

def fieldNames : List String :=
  ["auto_switch_enabled", "auto_switch_target_group",
    "auto_switch_candidate_proxies", "auto_switch_probe_interval_seconds",
    "auto_switch_switch_cooldown_seconds", "auto_switch_prefer_stable_only"]

def toJson (policy : Policy) : Json :=
  .object [
    ("auto_switch_enabled", .bool policy.enabled),
    ("auto_switch_target_group", .text policy.targetGroup),
    ("auto_switch_candidate_proxies",
      .array (policy.candidates.toList.map Json.text)),
    ("auto_switch_probe_interval_seconds",
      .int policy.probeIntervalSeconds.toNat),
    ("auto_switch_switch_cooldown_seconds", .int policy.cooldownSeconds.toNat),
    ("auto_switch_prefer_stable_only", .bool policy.preferStableOnly)]

/-- The policy that is written; a field that is not given is as in the initial
policy. -/
def ofJson? (value : Json) : Option Policy := do
  let fields ← value.fields? fieldNames
  some {
    enabled := ← fields.orElse "auto_switch_enabled" initial.enabled Json.bool?
    targetGroup :=
      ← fields.orElse "auto_switch_target_group" initial.targetGroup Json.text?
    candidates :=
      ← fields.orElse "auto_switch_candidate_proxies"
        initial.candidates Json.names?
    probeIntervalSeconds := ←
      fields.orElse "auto_switch_probe_interval_seconds"
      initial.probeIntervalSeconds Json.word64?
    cooldownSeconds := ←
      fields.orElse "auto_switch_switch_cooldown_seconds"
      initial.cooldownSeconds Json.word64?
    preferStableOnly := ←
      fields.orElse "auto_switch_prefer_stable_only"
      initial.preferStableOnly Json.bool? }

end Policy

end Switchyard
