import Switchyard.Url

/-!
# Reading URLs

A text is read as browsers read URLs. Blanks and control characters at its ends
and all tabs and ends of lines in it are left out. In the usual schemes a
backslash counts as a slash, and it does not matter how many slashes follow the
scheme.
-/

namespace Switchyard.Url

def countedCharacters (text : String) : List Char :=
  let isEdge (character : Char) : Bool := character.toNat ≤ 0x20
  let trimmed :=
    ((text.toList.dropWhile isEdge).reverse.dropWhile isEdge).reverse
  trimmed.filter fun character => !(['\t', '\n', '\r'].contains character)

def splitScheme? (characters : List Char) : Option (String × List Char) :=
  let isInner (character : Char) : Bool :=
    character.isAlphanum || ['+', '-', '.'].contains character
  let scheme := characters.takeWhile isInner
  match scheme, characters.dropWhile isInner with
  | first :: _, ':' :: rest =>
    if first.isAlpha then some (String.ofList (scheme.map Char.toLower), rest)
    else none
  | _, _ => none

def endsPath (character : Char) : Bool := character == '?' || character == '#'

def tail (isUsual : Bool) (characters : List Char) :
    Option String × Option String :=
  let encode (isCoded : Char → Bool) (part : List Char) : String :=
    String.ofList (Percent.encode isCoded part)
  let fragment : List Char → Option String
    | '#' :: rest => some (encode Percent.inFragment rest)
    | _ => none
  match characters with
  | '?' :: rest =>
    (some (encode (Percent.inQuery isUsual) (rest.takeWhile (· != '#'))),
      fragment (rest.dropWhile (· != '#')))
  | other => (none, fragment other)

def isSlash (isUsual : Bool) (character : Char) : Bool :=
  character == '/' || (isUsual && character == '\\')

def isDisk (segment : String) : Bool :=
  match segment.toList with
  | [letter, ':'] => letter.isAlpha
  | _ => false

def withoutLast (isFile : Bool) (names : List String) : List String :=
  match names with
  | [only] => if isFile && isDisk only then names else []
  | names => names.dropLast

/-- The segments after those of a list are walked along, from a place. -/
def walk (isFile : Bool) : List String → List String → List String
  | names, [] => names
  | names, segment :: rest =>
    let ending := if rest.isEmpty then [""] else []
    if isAbove segment then walk isFile
      (withoutLast isFile names ++ ending) rest
    else if isHere segment then walk isFile (names ++ ending) rest
    else
      let plain := if isFile && names.isEmpty then
          match segment.toList with
          | [letter, '|'] =>
            if letter.isAlpha then String.ofList [letter, ':'] else segment
          | _ => segment
        else segment
      walk isFile (names ++ [plain]) rest

/-- The segments that characters after the first slash of a path stand for. -/
def segmentsOf (isUsual isFile : Bool) (characters : List Char) : List String :=
  let parts := (Host.splitAt (isSlash isUsual) characters).map fun part =>
    String.ofList (Percent.encode Percent.inPath part)
  let names := walk isFile [] parts
  if isFile then
    match names.dropWhile (· == "") with
    | [] => [""]
    | names => names
  else names

/-- The user name and the password in front of a host, and whether there is any
of them. -/
def user (characters : List Char) : String × Option String :=
  let encode (part : List Char) : String :=
    String.ofList (Percent.encode Percent.inUser part)
  let name := encode (characters.takeWhile (· != ':'))
  match characters.dropWhile (· != ':') with
  | _ :: first :: rest => (name, some (encode (first :: rest)))
  | _ => (name, none)

def splitUser (characters : List Char) : Option (List Char × List Char) :=
  let reversed := characters.reverse
  match reversed.dropWhile (· != '@') with
  | [] => none
  | _ :: before =>
    some (before.reverse, (reversed.takeWhile (· != '@')).reverse)

/-- The characters of a host and the rest, which begins with the colon before a
port if there is one. Colons between square brackets belong to the host. -/
def splitHost : Bool → List Char → List Char × List Char
  | _, [] => ([], [])
  | inBrackets, character :: rest =>
    if character == ':' && !inBrackets then ([], character :: rest)
    else
      let (host, after) :=
        splitHost (character == '[' || (inBrackets && character != ']')) rest
      (character :: host, after)

/-- The port that characters name; none is named by no digits or by the scheme's
own. -/
def readPort (scheme : String) (digits : List Char) :
    Except UrlError (Option Nat) :=
  if digits.all Char.isDigit then
    let value :=
      digits.foldl (fun value digit => value * 10 + (digit.toNat - 48)) 0
    if 65535 < value then .error .badPort
    else if digits.isEmpty || usualPort? scheme = some value then .ok none
    else .ok (some value)
  else .error .badPort

/-- The user, the host and the port that stand between the slashes before and
after them, where it matters whether anything follows. -/
def readAuthority (scheme : String) (characters : List Char) (isLast : Bool) :
    Except UrlError Authority := do
  let isUsual := isUsualScheme scheme
  let (username, password, hostAndPort) ← match splitUser characters with
    | none => pure ("", none, characters)
    | some ([], []) => if isLast then pure ("", none, []) else throw .emptyHost
    | some ([], rest) => pure ("", none, rest)
    | some (before, rest) =>
      let (username, password) := user before
      pure (username, password, rest)
  let (hostPart, portPart) := splitHost false hostAndPort
  if isUsual && hostPart.isEmpty then throw .emptyHost
  let host ← if isUsual then Host.ofUsual hostPart else Host.ofOther hostPart
  if host == .name "" && !portPart.isEmpty then throw .emptyHost
  let hostPort ← if portPart.isEmpty then pure none
    else readPort scheme (portPart.drop 1)
  if host == .name "" &&
    (!username.isEmpty || password.isSome) then throw .emptyHost
  return ⟨username, password, host, hostPort⟩

def readWithAuthority (scheme : String) (characters : List Char) :
    Except UrlError Url := do
  let isUsual := isUsualScheme scheme
  let isEnd (character : Char) : Bool :=
    isSlash isUsual character || endsPath character
  let after := characters.dropWhile fun character => !isEnd character
  let authority ←
    readAuthority scheme
    (characters.takeWhile fun character => !isEnd character) after.isEmpty
  let written := after.takeWhile fun character => !endsPath character
  let (query, fragment) :=
    tail isUsual (after.dropWhile fun character => !endsPath character)
  let names := match written with
    | [] => if isUsual then [""] else []
    | _ :: rest => segmentsOf isUsual false rest
  return ⟨scheme, some authority, .segments names, query, fragment⟩

def readOther (scheme : String) (characters : List Char) :
    Except UrlError Url :=
  match characters with
  | '/' :: '/' :: rest => readWithAuthority scheme rest
  | characters =>
    let written := characters.takeWhile fun character => !endsPath character
    let (query, fragment) :=
      tail false (characters.dropWhile fun character => !endsPath character)
    let path := match written with
      | '/' :: rest => .segments (segmentsOf false false rest)
      | written =>
        .opaqueText
          (String.ofList (Percent.encode Percent.isAlwaysCoded written))
    .ok ⟨scheme, none, path, query, fragment⟩

def isDiskName : List Char → Bool
  | [letter, sign] => letter.isAlpha && (sign == ':' || sign == '|')
  | _ => false

/-- The URL of a file. Only after two slashes there may be a host, and the own
host is left out. -/
def readFile (characters : List Char) : Except UrlError Url := do
  let finish (host : Host) (characters : List Char) : Url :=
    let written := characters.takeWhile fun character => !endsPath character
    let (query, fragment) :=
      tail true (characters.dropWhile fun character => !endsPath character)
    let names := match written with
      | [] => [""]
      | first :: rest =>
        segmentsOf true true (if isSlash true first then rest else written)
    ⟨"file", some ⟨"", none, host, none⟩, .segments names, query, fragment⟩
  match characters with
  | first :: second :: rest =>
    if isSlash true first && isSlash true second then
      let isEnd (character : Char) : Bool :=
        isSlash true character || endsPath character
      let hostPart := rest.takeWhile fun character => !isEnd character
      if hostPart.isEmpty ||
        isDiskName hostPart then return finish (.name "") rest
      else
        let host ← Host.ofUsual hostPart
        let shown := if host == .name "localhost" then .name "" else host
        return finish shown (rest.dropWhile fun character => !isEnd character)
    else return finish (.name "") characters
  | characters => return finish (.name "") characters

def parse (text : String) : Except UrlError Url :=
  match splitScheme? (countedCharacters text) with
  | none => .error .relative
  | some (scheme, rest) =>
    if scheme == "file" then readFile rest
    else if isUsualScheme scheme then
      readWithAuthority scheme (rest.dropWhile (isSlash true))
    else readOther scheme rest

end Switchyard.Url
