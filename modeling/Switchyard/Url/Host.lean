import Switchyard.Text.Blank
import Switchyard.Url.Percent
import Switchyard.Url.Punycode

/-!
# Hosts

The host of a URL is an address of either kind or a name. In the usual schemes a
name is percent decoded, its letters are made small, and characters beyond ASCII
are written in Punycode; a name that ends in a number has to be an address. In
other schemes a name stands as it is.

Only a part of the mapping of names beyond ASCII is made here: the capitals of
Latin, Greek and Cyrillic, wide forms, blanks, full stops and marks that show
nothing. Other compatibility characters, such as circled or mathematical
letters, are kept as they are, as are the capitals of other scripts; nothing is
composed, and the direction of a label is not looked at.
-/

namespace Switchyard

/-- Why a text is no URL. -/
inductive UrlError where
  | relative
  | emptyHost
  | badPort
  | badIpv4
  | badIpv6
  | badName
  | badNameCharacter
deriving DecidableEq, Repr

def UrlError.message : UrlError → String
  | .relative => "relative URL without a base"
  | .emptyHost => "empty host"
  | .badPort => "invalid port number"
  | .badIpv4 => "invalid IPv4 address"
  | .badIpv6 => "invalid IPv6 address"
  | .badName => "invalid international domain name"
  | .badNameCharacter => "invalid domain character"

namespace Url

/-- The host of a URL. An address of the newer kind is its eight groups of 16
bits. -/
inductive Host where
  | name (name : String)
  | ipv4 (address : Nat)
  | ipv6 (groups : List Nat)
deriving DecidableEq, Repr

namespace Host

/-- The parts of a list between the places where a separator stands. -/
def splitAt (isSeparator : Char → Bool) : List Char → List (List Char)
  | [] => [[]]
  | character :: rest =>
    if isSeparator character then [] :: splitAt isSeparator rest
    else
      match splitAt isSeparator rest with
      | first :: others => (character :: first) :: others
      | [] => [[character]]

/-- A part of an address of four numbers; it may be in base eight, ten or
sixteen. -/
def ipv4Part? : List Char → Option Nat
  | [] => none
  | '0' :: 'x' :: digits => Text.number? 16 digits
  | '0' :: 'X' :: digits => Text.number? 16 digits
  | ['0'] => some 0
  | '0' :: digits => Text.number? 8 digits
  | digits => Text.number? 10 digits

def nameParts (characters : List Char) : List (List Char) :=
  let parts := splitAt (· == '.') characters
  if parts.getLast? = some [] then parts.dropLast else parts

/-- Whether a name ends in a number, so that it has to be an address. -/
def endsInNumber (characters : List Char) : Bool :=
  match (nameParts characters).getLast? with
  | none => false
  | some part =>
    (!part.isEmpty && part.all Char.isDigit) || (ipv4Part? part).isSome

/-- The address that a name is. Its last number fills all places that are
left. -/
def ipv4? (characters : List Char) : Option Nat := do
  let parts := nameParts characters
  if 4 < parts.length then none
  else
    let numbers ← parts.mapM ipv4Part?
    let last ← numbers.getLast?
    let leading := numbers.dropLast
    if leading.any (255 < ·) || 1 <<< (8 * (4 - leading.length)) ≤
      last then none
    else
      let shifted := leading.foldl (fun sum part => sum * 256 + part) 0
      some ((shifted <<< (8 * (4 - leading.length))) + last)

def group? (digits : List Char) : Option Nat :=
  if digits.isEmpty || 4 < digits.length then none else Text.number? 16 digits

/-- One of the four decimal numbers that may end an address; it has no leading
zeros. -/
def embeddedPart? (digits : List Char) : Option Nat := do
  if digits.isEmpty || 3 < digits.length ||
    (digits.head? = some '0' && 1 < digits.length) then none
  else
    let value ← Text.number? 10 digits
    if value ≤ 255 then some value else none

def embedded? (characters : List Char) : Option (List Nat) := do
  match ← (splitAt (· == '.') characters).mapM embeddedPart? with
  | [first, second, third, fourth] =>
    some [first * 256 + second, third * 256 + fourth]
  | _ => none

/-- The groups of one side of an address; only the last ones may be decimal
numbers, and only where that is allowed. -/
def groups? (mayEmbed : Bool) : List (List Char) → Option (List Nat)
  | [] => some []
  | [last] =>
    if mayEmbed && last.contains '.' then embedded? last
    else (group? last).map ([·])
  | part :: parts => do some ((← group? part) :: (← groups? mayEmbed parts))

def side? (mayEmbed : Bool) (characters : List Char) : Option (List Nat) :=
  if characters.isEmpty then some []
  else groups? mayEmbed (splitAt (· == ':') characters)

def splitDoubleColon : List Char → Option (List Char × List Char)
  | ':' :: ':' :: rest => some ([], rest)
  | character :: rest =>
    (splitDoubleColon rest).map fun sides => (character :: sides.1, sides.2)
  | [] => none

/-- The groups of an address. Two colons stand for as many zeros as are missing,
at least one. -/
def ipv6? (characters : List Char) : Option (List Nat) := do
  match splitDoubleColon characters with
  | none =>
    let groups ← side? true characters
    if groups.length = 8 then some groups else none
  | some (left, right) =>
    let leading ← side? false left
    let trailing ← side? true right
    if leading.length + trailing.length ≤ 7 then
      some (leading ++ List.replicate (8 - leading.length - trailing.length)
        0 ++ trailing)
    else none

/-- The small letter for a capital letter of the common alphabets with capital
letters. -/
def smallLetter (character : Char) : Char :=
  let code := character.toNat
  if 0xC0 ≤ code ∧ code ≤ 0xDE ∧ code ≠ 0xD7 then Char.ofNat (code + 32)
  else if (0x100 ≤ code ∧ code ≤ 0x137 ∧ code ≠ 0x130 ∨ 0x14A ≤ code ∧
      code ≤ 0x177) ∧ code % 2 = 0
    then Char.ofNat (code + 1)
  else if (0x139 ≤ code ∧ code ≤ 0x148 ∨ 0x179 ≤ code ∧ code ≤ 0x17E) ∧
    code % 2 = 1 then Char.ofNat (code + 1)
  else if 0x391 ≤ code ∧ code ≤ 0x3A9 then Char.ofNat (code + 32)
  else if 0x410 ≤ code ∧ code ≤ 0x42F then Char.ofNat (code + 32)
  else if 0x400 ≤ code ∧ code ≤ 0x40F then Char.ofNat (code + 80)
  else character.toLower

/-- A character of a name in its plain form: full stops of other scripts are
full stops, blanks are spaces, wide forms are their narrow ones, letters are
small, and marks that show nothing are left out. Whatever else the full mapping
changes (circled and mathematical letters, ligatures, capitals of other scripts)
stays. -/
def plainForm (character : Char) : List Char :=
  let code := character.toNat
  if code = 0x3002 ∨ code = 0xFF0E ∨ code = 0xFF61 then ['.']
  else if code = 0xA0 ∨ (0x2000 ≤ code ∧ code ≤ 0x200A) ∨ code = 0x202F ∨
    code = 0x205F ∨ code = 0x3000 then [' ']
  else if 0xFF01 ≤ code ∧ code ≤ 0xFF5E then
    [(Char.ofNat (code - 0xFEE0)).toLower]
  else if code = 0xAD ∨ code = 0x200B ∨ code = 0x2060 ∨ code = 0xFEFF ∨
    (0xFE00 ≤ code ∧ code ≤ 0xFE0F) ∨ (0xE0100 ≤ code ∧ code ≤ 0xE01EF) then []
  else [smallLetter character]

/-- Ranges of characters that have no place in a name: controls, marks for the
direction of text, characters for private use, and those that stand for
nothing. -/
def forbiddenRanges : List (Nat × Nat) := [
  (0x00, 0x20), (0x7F, 0x9F), (0x200C, 0x200F), (0x2028, 0x202E),
    (0x2061, 0x2063),
  (0x2065, 0x206F), (0xE000, 0xF8FF), (0xFFF9, 0xFFFF), (0xE0000, 0x10FFFF)]

def isForbidden (character : Char) : Bool :=
  forbiddenRanges.any (fun range =>
    decide (range.1 ≤ character.toNat ∧ character.toNat ≤ range.2)) ||
    ['%', '#', '/', ':', '<', '>', '?', '@', '[', '\\', ']', '^',
      '|'].contains character

/-- A label of a name as it is written in ASCII. A label that is in Punycode
already has to be what its own meaning is written as. -/
def labelText? (label : List Char) : Option (List Char) :=
  if label.all fun character => character.toNat < 0x80 then
    match label with
    | 'x' :: 'n' :: '-' :: '-' :: coded => do
      let meaning ← Punycode.decode? coded
      if (meaning.all fun character => character.toNat < 0x80) ||
        Punycode.encode meaning != coded ||
        meaning.any isForbidden || meaning.flatMap plainForm != meaning
      then none
      else some label
    | label => some label
  else some (['x', 'n', '-', '-'] ++ Punycode.encode label)

/-- The name that percent coded characters stand for, as it is written in
ASCII. -/
def nameText? (characters : List Char) : Option (List Char) := do
  let text ← (Percent.decode characters).text?
  let plain := text.toList.flatMap plainForm
  if plain.any isForbidden then none
  else
    let labels ← (splitAt (· == '.') plain).mapM labelText?
    some (List.intercalate ['.'] labels)

def bracketed? (characters : List Char) : Except UrlError Host :=
  if characters.getLast? = some ']' then
    match ipv6? (characters.drop 1).dropLast with
    | some groups => .ok (.ipv6 groups)
    | none => .error .badIpv6
  else .error .badIpv6

def ofUsual (characters : List Char) : Except UrlError Host :=
  if characters.head? = some '[' then bracketed? characters
  else
    match nameText? characters with
    | none => .error .badName
    | some [] => .error .emptyHost
    | some labels =>
      if endsInNumber labels then
        match ipv4? labels with
        | some address => .ok (.ipv4 address)
        | none => .error .badIpv4
      else .ok (.name (String.ofList labels))

def ofOther (characters : List Char) : Except UrlError Host :=
  if characters.head? = some '[' then bracketed? characters
  else if characters.any fun character =>
    ['\x00', '\t', '\n', '\r', ' ', '#', '/', ':', '<', '>', '?', '@', '[',
      '\\', ']', '^', '|'].contains character
  then .error .badNameCharacter
  else
    .ok
      (.name (String.ofList (Percent.encode Percent.isAlwaysCoded characters)))

def leadingZeros (groups : List Nat) : Nat := (groups.takeWhile (· == 0)).length

/-- The place and the length of the longest run of zeros, the first one of
several. -/
def longestZeros : Nat → List Nat → Nat × Nat
  | _, [] => (0, 0)
  | place, group :: groups =>
    let here := leadingZeros (group :: groups)
    let later := longestZeros (place + 1) groups
    if later.2 ≤ here then (place, here) else later

def groupsText (groups : List Nat) : String :=
  ":".intercalate (groups.map fun group =>
    String.ofList (Nat.toDigits 16 group))

def ipv6Text (groups : List Nat) : String :=
  let (place, length) := longestZeros 0 groups
  if length < 2 then groupsText groups
  else
    groupsText (groups.take place) ++ "::" ++
      groupsText (groups.drop (place + length))

def text : Host → String
  | .name known => known
  | .ipv4 address =>
    ".".intercalate ([16777216, 65536, 256, 1].map fun weight =>
      toString (address / weight % 256))
  | .ipv6 groups => "[" ++ ipv6Text groups ++ "]"

end Host

end Url

end Switchyard
