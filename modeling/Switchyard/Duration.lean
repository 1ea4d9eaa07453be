/-!
# Durations

Lengths of time, and moments counted from the start of a run, are natural
numbers of nanoseconds. Settings give them in milliseconds or in seconds.
-/

namespace Switchyard.Duration

def ofMillis (millis : Nat) : Nat := millis * 1000000

def ofSeconds (seconds : Nat) : Nat := seconds * 1000000000

def wholeMillis (length : Nat) : Nat := length / 1000000

def wholeSeconds (length : Nat) : Nat := length / 1000000000

theorem ofMillis_le_ofMillis {left right : Nat} :
    ofMillis left ≤ ofMillis right ↔ left ≤ right := by
  simp only [ofMillis]; omega

end Switchyard.Duration
