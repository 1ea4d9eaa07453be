import Switchyard.Json

/-!
# Writing JSON text

There are two written forms: the compact one without white space, and the pretty
one that gives every item and member a line of its own, indented by two spaces
for each level. Both escape the quote, the backslash and the control characters
below U+0020, and nothing else.
-/

namespace Switchyard.Json

/-- The hexadecimal digit, in lower case, of a number below sixteen. -/
def hexDigit (value : Nat) : Char :=
  if value < 10 then Char.ofNat (48 + value) else Char.ofNat (87 + value)

def escape (character : Char) : List Char :=
  if character == '"' then ['\\', '"']
  else if character == '\\' then ['\\', '\\']
  else if character == '\x08' then ['\\', 'b']
  else if character == '\x0c' then ['\\', 'f']
  else if character == '\n' then ['\\', 'n']
  else if character == '\r' then ['\\', 'r']
  else if character == '\t' then ['\\', 't']
  else if character.toNat < 0x20 then
    ['\\', 'u', '0', '0', hexDigit (character.toNat / 16),
      hexDigit (character.toNat % 16)]
  else [character]

def quote (text : String) : List Char :=
  '"' :: (text.toList.flatMap escape ++ ['"'])

mutual

def compactChars : Json → List Char
  | .null => ['n', 'u', 'l', 'l']
  | .bool true => ['t', 'r', 'u', 'e']
  | .bool false => ['f', 'a', 'l', 's', 'e']
  | .int value => (toString value).toList
  | .text value => quote value
  | .array items => '[' :: (compactItems items ++ [']'])
  | .object members => '{' :: (compactMembers members ++ ['}'])
  | .unreadable => ['n', 'u', 'l', 'l']

def compactItems : List Json → List Char
  | [] => []
  | [item] => compactChars item
  | item :: next :: rest =>
    compactChars item ++ ',' :: compactItems (next :: rest)

def compactMembers : List (String × Json) → List Char
  | [] => []
  | [(key, item)] => quote key ++ ':' :: compactChars item
  | (key, item) :: next :: rest =>
    quote key ++ ':' ::
      (compactChars item ++ ',' :: compactMembers (next :: rest))

end

def compact (value : Json) : String :=
  String.ofList (compactChars value)

def newLine (level : Nat) : List Char :=
  '\n' :: List.replicate (2 * level) ' '

mutual

/-- The characters of the pretty form of a value that stands at a level of
nesting. -/
def prettyChars (level : Nat) : Json → List Char
  | .null => ['n', 'u', 'l', 'l']
  | .bool true => ['t', 'r', 'u', 'e']
  | .bool false => ['f', 'a', 'l', 's', 'e']
  | .int value => (toString value).toList
  | .text value => quote value
  | .array [] => ['[', ']']
  | .array (item :: items) =>
    '[' :: (prettyItems (level + 1) (item :: items) ++ newLine level ++ [']'])
  | .object [] => ['{', '}']
  | .object (member :: members) =>
    '{' :: (prettyMembers (level + 1) (member :: members) ++
      newLine level ++ ['}'])
  | .unreadable => ['n', 'u', 'l', 'l']

def prettyItems (level : Nat) : List Json → List Char
  | [] => []
  | [item] => newLine level ++ prettyChars level item
  | item :: next :: rest =>
    newLine level ++ prettyChars level item ++ ',' :: prettyItems level
      (next :: rest)

def prettyMembers (level : Nat) : List (String × Json) → List Char
  | [] => []
  | [(key, item)] =>
    newLine level ++ quote key ++ ':' :: ' ' :: prettyChars level item
  | (key, item) :: next :: rest =>
    newLine level ++ quote key ++
      ':' :: ' ' ::
        (prettyChars level item ++ ',' :: prettyMembers level (next :: rest))

end

def pretty (value : Json) : String :=
  String.ofList (prettyChars 0 value)

end Switchyard.Json
