/-!
# Digits

Numbers are written with digits of a base up to sixteen; letters of either case
stand for the digits from ten on.
-/

namespace Switchyard.Text

def digitValue? (character : Char) : Option Nat :=
  let code := character.toNat
  if 48 ≤ code ∧ code ≤ 57 then some (code - 48)
  else if 65 ≤ code ∧ code ≤ 70 then some (code - 55)
  else if 97 ≤ code ∧ code ≤ 102 then some (code - 87)
  else none

/-- The number that digits of a base stand for, if they are all digits of that
base. No digits stand for zero. -/
def number? (base : Nat) (digits : List Char) : Option Nat :=
  digits.foldlM (fun value character => do
    let digit ← digitValue? character
    if digit < base then some (value * base + digit) else none) 0

end Switchyard.Text
