import Switchyard.Json
import Switchyard.Text.Digits

/-!
# Numbers, truth values and moments of TOML

Values without quotes and brackets are told apart by their form. A whole number
has to fit into 64 bits with a sign. Of numbers with a fraction and of moments
only the form is checked: no setting is such a value. A moment counts as a
record of its own, none of whose fields is known here.
-/

namespace Switchyard.Toml

/-- The digits of a number, where single underscores may stand between
digits. -/
def plainDigits? : List Char → Option (List Char)
  | [] => none
  | [digit] => if digit == '_' then none else some [digit]
  | first :: '_' :: rest =>
    if first == '_' then none else (plainDigits? rest).map (first :: ·)
  | first :: rest =>
    if first == '_' then none else (plainDigits? rest).map (first :: ·)

def digitsNumber? (base : Nat) (characters : List Char) : Option Nat := do
  Text.number? base (← plainDigits? characters)

/-- The number that decimal digits without leading zeros stand for. -/
def decimal? (characters : List Char) : Option Nat :=
  if characters.head? = some '0' && 1 < characters.length then none
  else digitsNumber? 10 characters

def splitSign : List Char → Option Char × List Char
  | '+' :: rest => (some '+', rest)
  | '-' :: rest => (some '-', rest)
  | rest => (none, rest)

def wholeNumber? : List Char → Option Int
  | '0' :: 'x' :: digits => (digitsNumber? 16 digits).map Int.ofNat
  | '0' :: 'o' :: digits => (digitsNumber? 8 digits).map Int.ofNat
  | '0' :: 'b' :: digits => (digitsNumber? 2 digits).map Int.ofNat
  | characters =>
    let (sign, digits) := splitSign characters
    (decimal? digits).map fun value =>
      if sign = some '-' then -(value : Int) else value

/-- Whether characters are digits with single underscores between them. -/
def areDigits (characters : List Char) : Bool :=
  (digitsNumber? 10 characters).isSome

/-- Whether characters write a number with a fraction or an exponent, or one
that is none. -/
def isFraction (characters : List Char) : Bool :=
  let (_, unsigned) := splitSign characters
  if unsigned == ['i', 'n', 'f'] || unsigned == ['n', 'a', 'n'] then true
  else
    let isMark (character : Char) : Bool := character == 'e' || character == 'E'
    let base := unsigned.takeWhile fun character => !isMark character
    let behind := unsigned.dropWhile fun character => !isMark character
    let exponentFits := match behind with
      | [] => true
      | _ :: exponent => areDigits (splitSign exponent).2
    let whole := base.takeWhile (· != '.')
    let fractionFits := match base.dropWhile (· != '.') with
      | [] => !behind.isEmpty
      | _ :: fraction => areDigits fraction
    (decimal? whole).isSome && fractionFits && exponentFits

def twoDigits? : List Char → Option Nat
  | [tens, ones] => if tens.isDigit &&
    ones.isDigit then Text.number? 10 [tens, ones] else none
  | _ => none

def daysOfMonth (year month : Nat) : Nat :=
  if month = 2 then
    if year % 4 = 0 ∧ (year % 100 ≠ 0 ∨ year % 400 = 0) then 29 else 28
  else if month = 4 ∨ month = 6 ∨ month = 9 ∨ month = 11 then 30
  else 31

def isDate : List Char → Bool
  | [a, b, c, d, '-', e, f, '-', g, h] =>
    match twoDigits? [a, b], twoDigits? [c, d], twoDigits? [e, f],
      twoDigits? [g, h] with
    | some century, some year, some month, some day =>
      decide (1 ≤ month ∧ month ≤ 12 ∧ 1 ≤ day ∧
        day ≤ daysOfMonth (century * 100 + year) month)
    | _, _, _, _ => false
  | _ => false

def isUpTo (bound : Nat) (digits : List Char) : Bool :=
  match twoDigits? digits with
  | some value => decide (value ≤ bound)
  | none => false

/-- Whether characters write a time of day, with or without a part of a
second. -/
def isTime : List Char → Bool
  | a :: b :: ':' :: c :: d :: ':' :: e :: f :: rest =>
    isUpTo 23 [a, b] && isUpTo 59 [c, d] && isUpTo 60 [e, f] &&
      (match rest with
        | [] => true
        | '.' :: part => !part.isEmpty && part.all Char.isDigit
        | _ => false)
  | _ => false

def isOffset : List Char → Bool
  | ['Z'] => true
  | ['z'] => true
  | [sign, a, b, ':', c, d] =>
    (sign == '+' || sign == '-') && isUpTo 23 [a, b] && isUpTo 59 [c, d]
  | _ => false

/-- Whether characters write a moment: a date, a time, or both with or without
an offset. -/
def isMoment (characters : List Char) : Bool :=
  if isDate characters || isTime characters then true
  else
    match characters.drop 10 with
    | mark :: rest =>
      let isTimePart (character : Char) : Bool :=
        character.isDigit || character == ':' || character == '.'
      let offset := rest.dropWhile isTimePart
      isDate (characters.take 10) &&
        (mark == 'T' || mark == 't' || mark == ' ') &&
        isTime (rest.takeWhile isTimePart) &&
        (offset.isEmpty || isOffset offset)
    | [] => false

def scalar? (characters : List Char) : Option Json :=
  if characters == ['t', 'r', 'u', 'e'] then some (.bool true)
  else if characters == ['f', 'a', 'l', 's', 'e'] then some (.bool false)
  else
    match wholeNumber? characters with
    | some value => if Json.isInt64 value then some (.int value) else none
    | none =>
      if isFraction characters then some .unreadable
      else if isMoment characters then some (.object [])
      else none

/-- Whether a character can be part of a value without quotes and brackets. -/
def isScalarPart (character : Char) : Bool :=
  character.isAlphanum || ['+', '-', '_', '.', ':'].contains character

/-- The characters of a value without quotes and brackets, and the rest. A blank
may stand between the date and the time of a moment. -/
def splitScalar (characters : List Char) : List Char × List Char :=
  let first := characters.takeWhile isScalarPart
  let rest := characters.dropWhile isScalarPart
  match isDate first, rest with
  | true, ' ' :: digit :: others =>
    if digit.isDigit then
      (first ++ ' ' :: (digit :: others).takeWhile isScalarPart,
        (digit :: others).dropWhile isScalarPart)
    else (first, rest)
  | _, _ => (first, rest)

end Switchyard.Toml
