import Switchyard.Json.Fields

/-!
# Delays

A proxy's last measurement is a latency in milliseconds, a timeout, or missing.
Written as one number, a latency is itself, a timeout is minus one, and every
other number means that there is no measurement. Latencies reach up to 32767
milliseconds.
-/

namespace Switchyard

/-- The outcome of the last measurement of a proxy. -/
inductive Delay where
  | stable (millis : Fin 32768)
  | timeout
  | unknown
deriving DecidableEq, Repr

namespace Delay

instance : Inhabited Delay := ⟨.unknown⟩

def unknownMillis : Int := -2147483648

def ofMillis (raw : Int) : Delay :=
  if bounds : 0 ≤ raw ∧ raw < 32768 then .stable ⟨raw.toNat, by omega⟩
  else if raw = -1 then .timeout
  else .unknown

def toMillis : Delay → Int
  | .stable millis => millis.val
  | .timeout => -1
  | .unknown => unknownMillis

def latency? : Delay → Option Nat
  | .stable millis => some millis.val
  | _ => none

def isStable (delay : Delay) : Bool := delay.latency?.isSome

/-- The score of delays without latency; it is behind that of every latency. -/
def worstScore : Nat := 4294967295

def score : Delay → Nat
  | .stable millis => millis.val
  | _ => worstScore

/-- The text for a delay in messages that have no language of their own. -/
def display : Delay → String
  | .stable millis => toString millis.val ++ "ms"
  | .timeout => "timeout"
  | .unknown => "unknown"

/-- The delay that the controller's measurements give: its last one counts, and
it writes zero for a timeout. -/
def ofMeasurements (measurements : List Int) : Delay :=
  match measurements.getLast? with
  | none => .unknown
  | some last => if last = 0 then .timeout else if 0 < last then ofMillis last
    else .unknown

def toJson (delay : Delay) : Json := .int delay.toMillis

def ofJson? (value : Json) : Option Delay := value.int32?.map ofMillis

@[simp]
theorem ofMillis_toMillis (delay : Delay) :
    ofMillis delay.toMillis = delay := by
  cases delay with
  | stable millis =>
    have bounds : (0 : Int) ≤ (millis.val : Int) ∧
      (millis.val : Int) < 32768 := by omega
    simp [ofMillis, toMillis, bounds]
  | timeout => decide
  | unknown => decide

@[simp]
theorem ofJson?_toJson (delay : Delay) : ofJson? delay.toJson = some delay := by
  have least : Int32.minValue.toInt = -2147483648 := by decide
  have greatest : Int32.maxValue.toInt = 2147483647 := by decide
  have bounds : Int32.minValue.toInt ≤ delay.toMillis ∧
      delay.toMillis ≤ Int32.maxValue.toInt := by
    rw [least, greatest]
    cases delay with
    | stable millis => simp only [toMillis]; omega
    | timeout => decide
    | unknown => decide
  rw [ofJson?, toJson, Json.int32?, if_pos bounds, Option.map_some,
    ofMillis_toMillis]

end Delay

end Switchyard
