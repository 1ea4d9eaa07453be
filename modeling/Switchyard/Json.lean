/-!
# JSON values

The values that JSON text denotes, as far as the settings and the records of
this library go: a number counts only when it is written as a whole number, and
members of an object keep their order and their repetitions, because a record
that names a field twice is refused.
-/

namespace Switchyard

/-- A JSON value. `unreadable` stands for well-formed text that denotes no value
of use here: a number with a fraction or an exponent, minus zero, or a string or
key in which an escape leaves half of a surrogate pair. It is skipped where it
is not needed and refused where it is. -/
inductive Json where
  | null
  | bool (value : Bool)
  | int (value : Int)
  | text (value : String)
  | array (items : List Json)
  | object (members : List (String × Json))
  | unreadable
deriving Inhabited, BEq, Repr

namespace Json

def isInt64 (value : Int) : Bool :=
  decide (Int64.minValue.toInt ≤ value ∧ value ≤ Int64.maxValue.toInt)

def ofNat (value : Nat) : Json := .int value

def ofOption {Value : Type} (write : Value → Json)
    (value : Option Value) : Json :=
  (value.map write).getD .null

def ofText? (value : Option String) : Json := ofOption .text value

end Json

end Switchyard
