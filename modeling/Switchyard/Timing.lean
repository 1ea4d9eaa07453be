import Switchyard.Duration
import Switchyard.Json.Fields

/-!
# Timing of the control loop

The loop looks at the group in an interval that the policy wishes, within
bounds; after a failure it looks again soon. A switch is confirmed by a few
queries with pauses between them.
-/

namespace Switchyard

/-- The periods, bounds and counts of the control loop, all times in
milliseconds. -/
structure Timing where
  minInterval : UInt64
  maxInterval : UInt64
  fastRetry : UInt64
  healthCheckTimeout : UInt64
  minImprovement : UInt32
  confirmAttempts : UInt32
  confirmInterval : UInt64
deriving DecidableEq, Repr

namespace Timing

def usual : Timing where
  minInterval := 5000
  maxInterval := 300000
  fastRetry := 1000
  healthCheckTimeout := 15000
  minImprovement := 50
  confirmAttempts := 3
  confirmInterval := 500

instance : Inhabited Timing := ⟨usual⟩

/-- The time until the next look. A wish for a retry counts for at least the
fast retry, and the usual interval for at least the least interval; neither
counts for more than the greatest interval. -/
def waitLength (timing : Timing) (retry : Option Nat)
    (probeInterval : Nat) : Nat :=
  let (wish, floor) := match retry with
    | some length => (length, Duration.ofMillis timing.fastRetry.toNat)
    | none => (probeInterval, Duration.ofMillis timing.minInterval.toNat)
  min (max wish floor) (Duration.ofMillis timing.maxInterval.toNat)

def fieldNames : List String :=
  ["min_interval_ms", "max_interval_ms", "fast_retry_ms",
    "health_check_timeout_ms", "min_improvement_ms", "confirm_attempts",
    "confirm_interval_ms"]

def toJson (timing : Timing) : Json :=
  .object [
    ("min_interval_ms", .int timing.minInterval.toNat),
    ("max_interval_ms", .int timing.maxInterval.toNat),
    ("fast_retry_ms", .int timing.fastRetry.toNat),
    ("health_check_timeout_ms", .int timing.healthCheckTimeout.toNat),
    ("min_improvement_ms", .int timing.minImprovement.toNat),
    ("confirm_attempts", .int timing.confirmAttempts.toNat),
    ("confirm_interval_ms", .int timing.confirmInterval.toNat)]

/-- The timing that is written; a field that is not given is as usual. -/
def ofJson? (value : Json) : Option Timing := do
  let fields ← value.fields? fieldNames
  some {
    minInterval :=
      ← fields.orElse "min_interval_ms" usual.minInterval Json.word64?
    maxInterval :=
      ← fields.orElse "max_interval_ms" usual.maxInterval Json.word64?
    fastRetry := ← fields.orElse "fast_retry_ms" usual.fastRetry Json.word64?
    healthCheckTimeout := ←
      fields.orElse "health_check_timeout_ms"
      usual.healthCheckTimeout Json.word64?
    minImprovement :=
      ← fields.orElse "min_improvement_ms" usual.minImprovement Json.word32?
    confirmAttempts :=
      ← fields.orElse "confirm_attempts" usual.confirmAttempts Json.word32?
    confirmInterval :=
      ← fields.orElse "confirm_interval_ms" usual.confirmInterval Json.word64? }

end Timing

end Switchyard
