/-!
# Quotients with 53 binary digits

A quotient of two counts is kept as a binary number of 53 digits, the nearest
one there is, before it is shown. Where two numbers are equally near, the even
one is taken.
-/

namespace Switchyard

/-- The whole number nearest to a quotient, and the even one of two. -/
def divideToEven (count parts : Nat) : Nat :=
  let whole := count / parts
  let twiceRest := 2 * (count % parts)
  if parts < twiceRest then whole + 1
  else if twiceRest = parts then whole + whole % 2
  else whole

/-- A number with some of its binary digits behind the point: that of its
`digits`, divided by two as often as there are `places`. -/
structure Quotient53 where
  digits : Nat
  places : Nat
deriving DecidableEq, Repr

def Quotient53.of (count parts : Nat) : Quotient53 :=
  let places := 64 + Nat.log2 parts
  let shifted := count <<< places
  let excess := Nat.log2 (shifted / parts) - 52
  ⟨divideToEven shifted (parts <<< excess) <<< excess, places⟩

end Switchyard
