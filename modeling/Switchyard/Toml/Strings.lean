import Switchyard.Text.Digits

/-!
# Strings and keys of TOML

A string stands between quotes or between apostrophes, and between three of them
it may go over several lines. Between quotes a backslash begins an escape, and
at the end of a line it takes the blanks up to the next visible character away.
An end of a line in a string is one character, whichever way it is written.
-/

namespace Switchyard.Toml

def isPlain (character : Char) : Bool :=
  character == '\t' || (0x20 ≤ character.toNat && character.toNat != 0x7F)

def isSpace (character : Char) : Bool := character == ' ' || character == '\t'

def skipSpace (characters : List Char) : List Char :=
  characters.dropWhile isSpace

def escapedLetter? : Char → Option Char
  | 'b' => some '\x08'
  | 't' => some '\t'
  | 'n' => some '\n'
  | 'f' => some '\x0c'
  | 'r' => some '\r'
  | '"' => some '"'
  | '\\' => some '\\'
  | _ => none

/-- The character with a number that is given by hexadecimal digits. -/
def escapedNumber? (digits : List Char) : Option Char := do
  let code ← Text.number? 16 digits
  if Nat.isValidChar code then some (Char.ofNat code) else none

def andThen (character : Option Char)
    (reading : Option (List Char × List Char)) :
    Option (List Char × List Char) := do
  let first ← character
  let (others, rest) ← reading
  some (first :: others, rest)

/-- Reads the inside of a string between quotes, up to its closing quote. -/
def readQuoted : List Char → Option (List Char × List Char)
  | [] => none
  | '"' :: rest => some ([], rest)
  | '\\' :: 'u' :: a :: b :: c :: d :: rest =>
    andThen (escapedNumber? [a, b, c, d]) (readQuoted rest)
  | '\\' :: 'U' :: a :: b :: c :: d :: e :: f :: g :: h :: rest =>
    andThen (escapedNumber? [a, b, c, d, e, f, g, h]) (readQuoted rest)
  | '\\' :: letter :: rest => andThen (escapedLetter? letter) (readQuoted rest)
  | character :: rest =>
    if isPlain character then andThen (some character) (readQuoted rest)
    else none

/-- Reads the inside of a string between apostrophes, up to its closing
apostrophe. -/
def readLiteral : List Char → Option (List Char × List Char)
  | [] => none
  | '\'' :: rest => some ([], rest)
  | character :: rest =>
    if isPlain character then andThen (some character) (readLiteral rest)
    else none

def isLineOver (characters : List Char) : Bool :=
  match skipSpace characters with
  | '\n' :: _ => true
  | '\r' :: '\n' :: _ => true
  | _ => false

/-- Reads the inside of a string between three quotes. While it is trimming,
blanks and ends of lines are taken away. Up to two quotes may stand before the
closing ones. -/
def readQuotedLines : Bool → List Char → Option (List Char × List Char)
  | _, [] => none
  | true, ' ' :: rest => readQuotedLines true rest
  | true, '\t' :: rest => readQuotedLines true rest
  | true, '\n' :: rest => readQuotedLines true rest
  | true, '\r' :: '\n' :: rest => readQuotedLines true rest
  | _, '"' :: '"' :: '"' :: '"' :: '"' :: rest => some (['"', '"'], rest)
  | _, '"' :: '"' :: '"' :: '"' :: rest => some (['"'], rest)
  | _, '"' :: '"' :: '"' :: rest => some ([], rest)
  | _, '\\' :: 'u' :: a :: b :: c :: d :: rest =>
    andThen (escapedNumber? [a, b, c, d]) (readQuotedLines false rest)
  | _, '\\' :: 'U' :: a :: b :: c :: d :: e :: f :: g :: h :: rest =>
    andThen (escapedNumber? [a, b, c, d, e, f, g, h])
      (readQuotedLines false rest)
  | _, '\\' :: '\r' :: '\n' :: rest => readQuotedLines true rest
  | _, '\\' :: letter :: rest =>
    if isLineOver (letter :: rest) then readQuotedLines true rest
    else andThen (escapedLetter? letter) (readQuotedLines false rest)
  | _, '\r' :: '\n' :: rest => andThen (some '\n') (readQuotedLines false rest)
  | _, '\n' :: rest => andThen (some '\n') (readQuotedLines false rest)
  | _, character :: rest =>
    if isPlain character then andThen (some character)
      (readQuotedLines false rest) else none

/-- Reads the inside of a string between three apostrophes. Up to two
apostrophes may stand before the closing ones. -/
def readLiteralLines : List Char → Option (List Char × List Char)
  | [] => none
  | '\'' :: '\'' :: '\'' :: '\'' :: '\'' :: rest => some (['\'', '\''], rest)
  | '\'' :: '\'' :: '\'' :: '\'' :: rest => some (['\''], rest)
  | '\'' :: '\'' :: '\'' :: rest => some ([], rest)
  | '\r' :: '\n' :: rest => andThen (some '\n') (readLiteralLines rest)
  | '\n' :: rest => andThen (some '\n') (readLiteralLines rest)
  | character :: rest =>
    if isPlain character then andThen (some character) (readLiteralLines rest)
    else none

def skipLineEnd : List Char → List Char
  | '\n' :: rest => rest
  | '\r' :: '\n' :: rest => rest
  | rest => rest

def readString : List Char → Option (String × List Char)
  | '"' :: '"' :: '"' :: rest =>
    (readQuotedLines false (skipLineEnd rest)).map fun read =>
      (String.ofList read.1, read.2)
  | '"' :: rest => (readQuoted rest).map fun read =>
    (String.ofList read.1, read.2)
  | '\'' :: '\'' :: '\'' :: rest =>
    (readLiteralLines (skipLineEnd rest)).map fun read =>
      (String.ofList read.1, read.2)
  | '\'' :: rest => (readLiteral rest).map fun read =>
    (String.ofList read.1, read.2)
  | _ => none

def isBare (character : Char) : Bool :=
  character.isAlphanum || character == '_' || character == '-'

def readKeyPart : List Char → Option (String × List Char)
  | '"' :: rest => (readQuoted rest).map fun read =>
    (String.ofList read.1, read.2)
  | '\'' :: rest => (readLiteral rest).map fun read =>
    (String.ofList read.1, read.2)
  | characters =>
    let bare := characters.takeWhile isBare
    if bare.isEmpty then none
    else some (String.ofList bare, characters.dropWhile isBare)

/-- Reads a key of at most as many parts as a bound says. Blanks may stand
around its points. -/
def readKey : Nat → List Char → Option (List String × List Char)
  | 0, _ => none
  | more + 1, characters => do
    let (part, rest) ← readKeyPart (skipSpace characters)
    match skipSpace rest with
    | '.' :: rest =>
      let (parts, rest) ← readKey more rest
      some (part :: parts, rest)
    | rest => some ([part], rest)

end Switchyard.Toml
