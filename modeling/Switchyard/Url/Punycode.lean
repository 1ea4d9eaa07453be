/-!
# Punycode

Characters beyond ASCII are written in a host name as a list of differences:
each of them says how far to count on, through all characters and all places,
before the next one is inserted. A difference is a number with digits of growing
weight, and the weights adapt to the differences so far.
-/

namespace Switchyard.Url.Punycode

def firstCode : Nat := 128

def firstBias : Nat := 72

def digitChar (value : Nat) : Char :=
  if value < 26 then Char.ofNat (97 + value) else Char.ofNat (22 + value)

def digitValue? (character : Char) : Option Nat :=
  let code := character.toNat
  if 97 ≤ code ∧ code ≤ 122 then some (code - 97)
  else if 65 ≤ code ∧ code ≤ 90 then some (code - 65)
  else if 48 ≤ code ∧ code ≤ 57 then some (code - 22)
  else none

/-- The threshold for the digit at a position, of which the first has number
one. -/
def threshold (bias position : Nat) : Nat :=
  min 26 (max 1 (36 * position - bias))

/-- Divides a difference until it is small, and counts the divisions. -/
def shrink (difference divisions : Nat) : Nat × Nat :=
  if 455 < difference then shrink (difference / 35) (divisions + 1)
  else (difference, divisions)
termination_by difference
decreasing_by omega

/-- The bias after a difference that brought the number of characters to a
count. -/
def nextBias (difference count : Nat) (isFirst : Bool) : Nat :=
  let damped := if isFirst then difference / 700 else difference / 2
  let (small, divisions) := shrink (damped + damped / count) 0
  36 * divisions + 36 * small / (small + 38)

def digits (bias position value : Nat) : List Char :=
  let limit := threshold bias position
  if value < limit then [digitChar value]
  else
    digitChar (limit + (value - limit) % (36 - limit)) ::
      digits bias (position + 1) ((value - limit) / (36 - limit))
termination_by value
decreasing_by
  have positive : 1 ≤ threshold bias position := by unfold threshold; omega
  have bounded : threshold bias position ≤ 26 := by unfold threshold; omega
  have small :
      (value - threshold bias position) / (36 - threshold bias position) ≤
      value - threshold bias position := Nat.div_le_self _ _
  omega

/-- Where the writing stands: the difference so far, the bias, the count of
characters written, and the digits. -/
structure Writing where
  difference : Nat
  bias : Nat
  count : Nat
  written : List Char

/-- Goes over the characters of a label once, to write those that are a certain
one. -/
def writeCode (code plain : Nat) (writing : Writing) : List Nat → Writing
  | [] => writing
  | next :: rest =>
    if next < code then
      writeCode code plain
        { writing with difference := writing.difference + 1 } rest
    else if next = code then
      writeCode code plain
        { difference := 0
          bias := nextBias writing.difference (writing.count + 1)
            (writing.count == plain)
          count := writing.count + 1
          written :=
            writing.written ++ digits writing.bias 1 writing.difference } rest
    else writeCode code plain writing rest

/-- Writes the characters beyond ASCII, which are given in increasing order,
from a code on. -/
def writeCodes (label : List Nat) (plain : Nat) (writing : Writing) :
    Nat → List Nat → List Char
  | _, [] => writing.written
  | reached, code :: codes =>
    let advanced :=
      { writing with
        difference :=
          writing.difference + (code - reached) * (writing.count + 1) }
    let after := writeCode code plain advanced label
    writeCodes label plain { after with difference := after.difference + 1 }
      (code + 1) codes

def encode (label : List Char) : List Char :=
  let codes := label.map Char.toNat
  let plain :=
    label.filter fun character => decide (character.toNat < firstCode)
  let others :=
    ((codes.filter fun code => decide (firstCode ≤ code)).mergeSort).eraseDups
  let start := if plain.isEmpty then [] else plain ++ ['-']
  start ++ writeCodes codes plain.length ⟨0, firstBias, plain.length, []⟩
    firstCode others

/-- Reads one difference: the sum so far, the weight of the next digit, and its
position. -/
def readDifference (bias sum weight position : Nat) :
    List Char → Option (Nat × List Char)
  | [] => none
  | character :: rest => do
    let value ← digitValue? character
    let limit := threshold bias position
    if value < limit then some (sum + value * weight, rest)
    else
      readDifference bias (sum + value * weight) (weight * (36 - limit))
        (position + 1) rest

/-- Where the reading stands: the character last inserted, the place after it,
the bias, and whether nothing has been inserted yet. -/
structure Reading where
  code : Nat
  place : Nat
  bias : Nat
  isFirst : Bool

/-- Reads differences and inserts their characters. Each step uses up a
character, so as many steps as there are characters are enough. -/
def readCodes : Nat → List Char → Reading → List Char → Option (List Char)
  | _, [], _, label => some label
  | 0, _ :: _, _, _ => none
  | steps + 1, rest, reading, label => do
    let (difference, rest) ← readDifference reading.bias 0 1 1 rest
    let count := label.length + 1
    let total := reading.place + difference
    let code := reading.code + total / count
    let place := total % count
    if Nat.isValidChar code then
      readCodes steps rest
        ⟨code, place + 1, nextBias difference count reading.isFirst, false⟩
        (label.insertIdx place (Char.ofNat code))
    else none

def decode? (written : List Char) : Option (List Char) :=
  let reversedTail :=
    written.reverse.takeWhile fun character => character != '-'
  let tail := reversedTail.reverse
  let plain := (written.take (written.length - tail.length)).dropLast
  if plain.all fun character => character.toNat < firstCode then
    readCodes tail.length tail ⟨firstCode, 0, firstBias, true⟩ plain
  else none

end Switchyard.Url.Punycode
