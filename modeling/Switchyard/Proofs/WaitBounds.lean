import Switchyard.Proofs.Acceptance

/-!
# The bounds of a wait

The length that is asked for is raised to a least length and then lowered to a
greatest one. That brings it between the two exactly if they are in order. The
check of the settings sees to their order for the interval of the policy, and it
is not lost where there are more seconds than milliseconds that can be counted.
The fast retry is only checked not to be zero: where it is longer than the
greatest interval, every retry takes the greatest interval and so less than the
fast retry.
-/

namespace Switchyard

/-- Lengths are brought between two bounds: none stays outside, no longer one
becomes shorter than a shorter one, and one between the bounds stays as it
is. -/
structure BringsBetween (least greatest : Nat) (brought : Nat → Nat) :
    Prop where
  least_le : ∀ length, least ≤ brought length
  le_greatest : ∀ length, brought length ≤ greatest
  monotone : ∀ shorter longer,
    shorter ≤ longer → brought shorter ≤ brought longer
  eq_self : ∀ length, least ≤ length → length ≤ greatest →
    brought length = length

theorem bringsBetween_iff {least greatest : Nat} :
    BringsBetween least greatest
      (fun length => min (max length least) greatest) ↔ least ≤ greatest := by
  constructor
  · intro between
    exact (between.least_le 0).trans (between.le_greatest 0)
  · intro ordered
    constructor
    · exact fun length => Nat.le_min.2 ⟨Nat.le_max_right length least, ordered⟩
    · exact fun length => Nat.min_le_right _ greatest
    · intro shorter longer order
      omega
    · intro length above below
      rw [Nat.max_eq_left above, Nat.min_eq_left below]

namespace Timing

variable (timing : Timing)

theorem waitLength_none_bringsBetween_iff :
    BringsBetween (Duration.ofMillis timing.minInterval.toNat)
        (Duration.ofMillis timing.maxInterval.toNat) (timing.waitLength none) ↔
      timing.minInterval ≤ timing.maxInterval := by
  rw [UInt64.le_iff_toNat_le, ← Duration.ofMillis_le_ofMillis]
  exact bringsBetween_iff

theorem waitLength_some_bringsBetween_iff (interval : Nat) :
    BringsBetween (Duration.ofMillis timing.fastRetry.toNat)
        (Duration.ofMillis timing.maxInterval.toNat)
        (fun retry => timing.waitLength (some retry) interval) ↔
      timing.fastRetry ≤ timing.maxInterval := by
  rw [UInt64.le_iff_toNat_le, ← Duration.ofMillis_le_ofMillis]
  exact bringsBetween_iff

/-- Where the fast retry is longer than the greatest interval, nothing depends
on the wish for a retry. -/
theorem waitLength_some_eq (inverted : timing.maxInterval < timing.fastRetry)
    (retry interval : Nat) :
    timing.waitLength (some retry) interval =
      Duration.ofMillis timing.maxInterval.toNat := by
  have shorter : Duration.ofMillis timing.maxInterval.toNat ≤
      Duration.ofMillis timing.fastRetry.toNat :=
    Duration.ofMillis_le_ofMillis.2
      (Nat.le_of_lt (UInt64.lt_iff_toNat_lt.1 inverted))
  exact Nat.min_eq_right (shorter.trans (Nat.le_max_right _ _))

end Timing

namespace Settings

theorem Pace.fastRetry_le_maxInterval_iff (pace : Pace) :
    pace.timing.fastRetry ≤ pace.timing.maxInterval ↔
      pace.fastRetry.toNat ≤ pace.maxIntervalSeconds.toNat * 1000 := by
  have bound : pace.fastRetry.toNat < UInt64.size :=
    pace.fastRetry.toNat_lt_size
  have greatest : pace.timing.maxInterval.toNat =
      min (pace.maxIntervalSeconds.toNat * 1000) (UInt64.size - 1) :=
    toNat_millisOfSeconds pace.maxIntervalSeconds
  have same : pace.timing.fastRetry = pace.fastRetry := rfl
  rw [UInt64.le_iff_toNat_le, greatest, same]
  omega

theorem isAccepted_of_isValid {settings : Settings}
    (accepted : settings.findings.isValid = true) :
    settings.pace.IsAccepted := by
  have clean := Findings.isValid_iff.1 accepted
  simp only [findings, Findings.errors_all, List.flatMap_cons,
    List.append_eq_nil_iff] at clean
  exact Pace.isAccepted_of_errors clean.2.2.2.1

end Settings

namespace Daemon

/-- With accepted settings the interval of the policy is brought between the
least and the greatest interval. The wish for a retry is brought between the
fast retry and the greatest interval exactly if the fast retry is not the longer
one of these; otherwise every retry takes the greatest interval, which the fast
retry exceeds. -/
theorem waits_between_bounds {settings : Settings}
    (accepted : settings.findings.isValid = true) :
    let timing := settings.pace.timing
    let least := Duration.ofMillis timing.minInterval.toNat
    let fastRetry := Duration.ofMillis timing.fastRetry.toNat
    let greatest := Duration.ofMillis timing.maxInterval.toNat
    BringsBetween least greatest (timing.waitLength none) ∧
      (∀ interval, BringsBetween fastRetry greatest
          (fun retry => timing.waitLength (some retry) interval) ↔
        settings.pace.fastRetry.toNat ≤
          settings.pace.maxIntervalSeconds.toNat * 1000) ∧
      (settings.pace.maxIntervalSeconds.toNat * 1000 <
        settings.pace.fastRetry.toNat → greatest < fastRetry ∧
          ∀ retry interval, timing.waitLength (some retry) interval =
            greatest) := by
  intro timing least fastRetry greatest
  have pace := Settings.isAccepted_of_isValid accepted
  have ordered : timing.minInterval ≤ timing.maxInterval :=
    Settings.millisOfSeconds_le_millisOfSeconds pace.ordered
  have inOrder := settings.pace.fastRetry_le_maxInterval_iff
  refine ⟨timing.waitLength_none_bringsBetween_iff.2 ordered,
    fun interval => ?_, fun longer => ?_⟩
  · rw [← inOrder]
    exact timing.waitLength_some_bringsBetween_iff interval
  · have inverted : timing.maxInterval < timing.fastRetry := by
      rw [← UInt64.not_le]
      exact fun order => absurd (inOrder.1 order) (Nat.not_le.2 longer)
    refine ⟨?_, timing.waitLength_some_eq inverted⟩
    rw [← Nat.not_le, Duration.ofMillis_le_ofMillis, ← UInt64.le_iff_toNat_le,
      UInt64.not_le]
    exact inverted

/-- Settings in which the intervals have more seconds than there are
milliseconds to count, and the fast retry has all of these. -/
def unhurried : Settings :=
  { Settings.usual with
    pace := { Settings.Pace.usual with
      minIntervalSeconds := 18446744073709552
      maxIntervalSeconds := 18446744073709552
      fastRetry := 18446744073709551615 } }

/-- The bounds are in order and come down to one length. -/
theorem waits_between_bounds_of_unhurried :
    let timing := unhurried.pace.timing
    let only := Duration.ofMillis 18446744073709551615
    unhurried.findings.isValid = true ∧
      BringsBetween only only (timing.waitLength none) ∧
      ∀ interval, BringsBetween only only (fun retry =>
        timing.waitLength (some retry) interval) := by
  intro timing only
  have accepted : unhurried.findings.isValid = true := by decide +kernel
  obtain ⟨usual, retries, -⟩ := waits_between_bounds accepted
  exact ⟨accepted, usual, fun interval => (retries interval).2 (by decide)⟩

/-- Settings with a fast retry that is longer than the greatest interval. -/
def laggard : Settings :=
  { Settings.usual with
    pace := { Settings.Pace.usual with fastRetry := 400000 } }

/-- The check finds no error in these settings, but a retry is taken after less
than the fast retry. -/
theorem retry_short_of_fast_retry :
    let timing := laggard.pace.timing
    let wait := timing.waitLength (some (Duration.ofMillis 1000))
      (Duration.ofSeconds 60)
    laggard.findings.isValid = true ∧ wait = Duration.ofSeconds 300 ∧
      wait < Duration.ofMillis timing.fastRetry.toNat := by
  decide +kernel

end Daemon

end Switchyard
