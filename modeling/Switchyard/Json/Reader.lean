import Switchyard.Json
import Switchyard.Text.Digits

/-!
# Reading JSON text

The reader takes the text of one JSON value with nothing but JSON white space
around it. Each function answers what it read together with the rest of the
characters.
-/

namespace Switchyard.Json

def isSpace (character : Char) : Bool :=
  character == ' ' || character == '\n' || character == '\t' ||
    character == '\r'

def skipSpace (characters : List Char) : List Char :=
  characters.dropWhile isSpace

/-- A piece of a string: a character, or one half of a surrogate pair that was
given as an escape. -/
inductive Piece where
  | whole (character : Char)
  | half (unit : Nat)

def escapedUnit? (first second third fourth : Char) : Option Piece := do
  let unit ← Text.number? 16 [first, second, third, fourth]
  if 0xD800 ≤ unit ∧ unit ≤ 0xDFFF then some (.half unit)
  else some (.whole (Char.ofNat unit))

def escapedLetter? : Char → Option Char
  | '"' => some '"'
  | '\\' => some '\\'
  | '/' => some '/'
  | 'b' => some '\x08'
  | 'f' => some '\x0c'
  | 'n' => some '\n'
  | 'r' => some '\r'
  | 't' => some '\t'
  | _ => none

/-- Reads the inside of a string up to its closing quote. Control characters
have to be escaped. -/
def readPieces : List Char → Option (List Piece × List Char)
  | [] => none
  | '"' :: rest => some ([], rest)
  | '\\' :: 'u' :: first :: second :: third :: fourth :: rest => do
    let piece ← escapedUnit? first second third fourth
    let (pieces, rest) ← readPieces rest
    some (piece :: pieces, rest)
  | '\\' :: letter :: rest => do
    let character ← escapedLetter? letter
    let (pieces, rest) ← readPieces rest
    some (.whole character :: pieces, rest)
  | character :: rest =>
    if character == '\\' || character.toNat < 0x20 then none
    else do
      let (pieces, rest) ← readPieces rest
      some (.whole character :: pieces, rest)

/-- The characters of the pieces, two halves making one character; nothing when
a half is alone. -/
def joinPieces : List Piece → Option (List Char)
  | [] => some []
  | .whole character :: rest => (joinPieces rest).map (character :: ·)
  | .half high :: .half low :: rest =>
    if high < 0xDC00 ∧ 0xDC00 ≤ low then
      (joinPieces rest).map
        (Char.ofNat (0x10000 + (high - 0xD800) * 0x400 + (low - 0xDC00)) :: ·)
    else none
  | .half _ :: _ => none

/-- Reads the inside of a string; its text is missing when a surrogate pair is
incomplete. -/
def readText (characters : List Char) : Option (Option String × List Char) := do
  let (pieces, rest) ← readPieces characters
  some ((joinPieces pieces).map String.ofList, rest)

def digitsValue (digits : List Char) : Nat :=
  digits.foldl (fun value digit => value * 10 + (digit.toNat - 48)) 0

/-- Skips a fraction, if one is there; the answer says whether one was. -/
def skipFraction : List Char → Option (Bool × List Char)
  | '.' :: rest =>
    if (rest.takeWhile Char.isDigit).isEmpty then none
    else some (true, rest.dropWhile Char.isDigit)
  | rest => some (false, rest)

/-- Skips an exponent, if one is there; the answer says whether one was. -/
def skipExponent : List Char → Option (Bool × List Char)
  | mark :: rest =>
    if mark == 'e' || mark == 'E' then
      let digits := match rest with
        | sign :: after =>
          if sign == '+' || sign == '-' then after else sign :: after
        | [] => []
      if (digits.takeWhile Char.isDigit).isEmpty then none
      else some (true, digits.dropWhile Char.isDigit)
    else some (false, mark :: rest)
  | [] => some (false, [])

def readUnsigned (negative : Bool) (characters : List Char) :
    Option (Json × List Char) := do
  let digits := characters.takeWhile Char.isDigit
  if digits.isEmpty ||
    (digits.head? == some '0' && digits.length != 1) then none
  else
    let (hasFraction, rest) ← skipFraction (characters.dropWhile Char.isDigit)
    let (hasExponent, rest) ← skipExponent rest
    let value := digitsValue digits
    if hasFraction || hasExponent ||
      (negative && value == 0) then some (.unreadable, rest)
    else some (.int (if negative then -(value : Int) else value), rest)

def readNumber : List Char → Option (Json × List Char)
  | '-' :: rest => readUnsigned true rest
  | rest => readUnsigned false rest

def ofMembers (members : List (Option String × Json)) : Json :=
  match members.mapM
    (fun member => member.1.map (fun key => (key, member.2))) with
  | some named => .object named
  | none => .unreadable

mutual

/-- Reads one value. The first argument bounds how deep the reading goes. -/
def readValue : Nat → List Char → Option (Json × List Char)
  | 0, _ => none
  | depth + 1, characters =>
    match skipSpace characters with
    | 'n' :: 'u' :: 'l' :: 'l' :: rest => some (.null, rest)
    | 't' :: 'r' :: 'u' :: 'e' :: rest => some (.bool true, rest)
    | 'f' :: 'a' :: 'l' :: 's' :: 'e' :: rest => some (.bool false, rest)
    | '"' :: rest => do
      let (content, rest) ← readText rest
      some ((content.map Json.text).getD .unreadable, rest)
    | '[' :: rest =>
      match skipSpace rest with
      | ']' :: rest => some (.array [], rest)
      | rest => do
        let (items, rest) ← readItems depth rest
        some (.array items, rest)
    | '{' :: rest =>
      match skipSpace rest with
      | '}' :: rest => some (.object [], rest)
      | rest => do
        let (members, rest) ← readMembers depth rest
        some (ofMembers members, rest)
    | rest => readNumber rest

def readItems : Nat → List Char → Option (List Json × List Char)
  | 0, _ => none
  | depth + 1, characters => do
    let (item, rest) ← readValue depth characters
    match skipSpace rest with
    | ']' :: rest => some ([item], rest)
    | ',' :: rest => do
      let (items, rest) ← readItems depth rest
      some (item :: items, rest)
    | _ => none

def readMembers : Nat → List Char →
    Option (List (Option String × Json) × List Char)
  | 0, _ => none
  | depth + 1, characters =>
    match skipSpace characters with
    | '"' :: rest => do
      let (key, rest) ← readText rest
      match skipSpace rest with
      | ':' :: rest => do
        let (item, rest) ← readValue depth rest
        match skipSpace rest with
        | '}' :: rest => some ([(key, item)], rest)
        | ',' :: rest => do
          let (members, rest) ← readMembers depth rest
          some ((key, item) :: members, rest)
        | _ => none
      | _ => none
    | _ => none

end

def parse? (text : String) : Option Json := do
  let characters := text.toList
  let (value, rest) ← readValue (2 * characters.length + 2) characters
  if (skipSpace rest).isEmpty then some value else none

end Switchyard.Json
