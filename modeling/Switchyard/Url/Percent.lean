import Switchyard.Text.Bytes
import Switchyard.Text.Digits

/-!
# Percent coding

In a URL, a character that may not stand for itself is written as its UTF-8
bytes, each as a percent sign and two hexadecimal digits. Which ASCII characters
that concerns depends on the part of the URL; control characters and characters
beyond ASCII are always written so.
-/

namespace Switchyard.Url.Percent

def hexDigit (value : Nat) : Char :=
  if value < 10 then Char.ofNat (48 + value) else Char.ofNat (55 + value)

def byteText (byte : UInt8) : List Char :=
  ['%', hexDigit (byte.toNat / 16), hexDigit (byte.toNat % 16)]

/-- Whether a character is written by its bytes everywhere in a URL. -/
def isAlwaysCoded (character : Char) : Bool :=
  character.toNat < 0x20 || 0x7F ≤ character.toNat

def inFragment (character : Char) : Bool :=
  isAlwaysCoded character || [' ', '"', '<', '>', '\x60'].contains character

def inPath (character : Char) : Bool :=
  inFragment character || ['#', '?', '\x7b', '\x7d'].contains character

/-- Characters that are written by their bytes in a user name or a password. -/
def inUser (character : Char) : Bool :=
  inPath character ||
    ['/', ':', ';', '=', '@', '[', '\\', ']', '^', '|'].contains character

/-- Characters that are written by their bytes in a name that becomes one
segment of a path. In the usual schemes a backslash would end the segment. -/
def inSegment (isUsual : Bool) (character : Char) : Bool :=
  inPath character || ['/', '%'].contains character ||
    (isUsual && character == '\\')

def inQuery (isUsual : Bool) (character : Char) : Bool :=
  isAlwaysCoded character || [' ', '"', '#', '<', '>'].contains character ||
    (isUsual && character == '\'')

def encodeChar (isCoded : Char → Bool) (character : Char) : List Char :=
  if isCoded character then (Bytes.ofText character.toString).flatMap byteText
  else [character]

def encode (isCoded : Char → Bool) (characters : List Char) : List Char :=
  characters.flatMap (encodeChar isCoded)

/-- The form in which a name or a value stands in a list of pairs: letters,
digits and four signs stand for themselves, and a blank is a plus sign. -/
def encodePair (text : String) : String :=
  let isPlain (character : Char) : Bool :=
    character.isAlphanum || ['*', '-', '.', '_', ' '].contains character
  let coded := encode (fun character => !isPlain character) text.toList
  String.ofList (coded.map fun character =>
    if character = ' ' then '+' else character)

/-- The bytes that a written form stands for. A percent sign without two digits
stands for itself. -/
def decode : List Char → Bytes
  | '%' :: high :: low :: rest =>
    match Text.digitValue? high, Text.digitValue? low with
    | some highValue, some lowValue =>
      UInt8.ofNat (highValue * 16 + lowValue) :: decode rest
    | _, _ => 37 :: decode (high :: low :: rest)
  | character :: rest => Bytes.ofText character.toString ++ decode rest
  | [] => []

end Switchyard.Url.Percent
