import Switchyard.Url.Host

/-!
# URLs

A URL has a scheme, possibly a host with a user and a port in front of and
behind it, a path, and possibly a query and a fragment. All parts are kept as
they are written, that is, percent coded. The path is a list of segments, or,
where no slash follows the scheme, one opaque text.
-/

namespace Switchyard

namespace Url

/-- The path of a URL. -/
inductive Path where
  | opaqueText (text : String)
  | segments (names : List String)
deriving DecidableEq, Repr

/-- Where a host is, and who asks it. -/
structure Authority where
  username : String
  password : Option String
  host : Host
  hostPort : Option Nat
deriving DecidableEq, Repr

end Url

/-- A URL in its parts. -/
structure Url where
  scheme : String
  authority : Option Url.Authority
  path : Url.Path
  query : Option String
  fragment : Option String
deriving DecidableEq, Repr

namespace Url

/-- Whether a scheme is one of those whose URLs always have a host and a
path. -/
def isUsualScheme (scheme : String) : Bool :=
  ["http", "https", "ws", "wss", "ftp", "file"].contains scheme

def usualPort? : String → Option Nat
  | "http" => some 80
  | "ws" => some 80
  | "https" => some 443
  | "wss" => some 443
  | "ftp" => some 21
  | _ => none

def isUsual (url : Url) : Bool := isUsualScheme url.scheme

def isHierarchical (url : Url) : Bool :=
  match url.path with
  | .opaqueText _ => false
  | .segments _ => true

def hostText? (url : Url) : Option String :=
  (url.authority.map fun authority => authority.host.text).filter fun text =>
    !text.isEmpty

def Path.text : Path → String
  | .opaqueText text => text
  | .segments names => String.join (names.map ("/" ++ ·))

def Authority.text (authority : Authority) : String :=
  let password := match authority.password with
    | none => ""
    | some password => ":" ++ password
  let user := if authority.username.isEmpty && authority.password.isNone then ""
    else authority.username ++ password ++ "@"
  let portText := match authority.hostPort with
    | none => ""
    | some number => ":" ++ toString number
  user ++ authority.host.text ++ portText

def signed (sign : String) : Option String → String
  | none => ""
  | some text => sign ++ text

def target (url : Url) : String := url.path.text ++ signed "?" url.query

/-- The text of a URL. A path that would look like a host is kept from it. -/
def text (url : Url) : String :=
  let start := match url.authority, url.path with
    | some authority, _ => "//" ++ authority.text
    | none, .segments ("" :: _ :: _) => "/."
    | none, _ => ""
  url.scheme ++ ":" ++ start ++ url.target ++ signed "#" url.fragment

def isHere (segment : String) : Bool :=
  [".", "%2e"].contains (Text.lowerAscii segment)

def isAbove (segment : String) : Bool :=
  ["..", ".%2e", "%2e.", "%2e%2e"].contains (Text.lowerAscii segment)

def dropEmptyLast (names : List String) : List String :=
  if names.getLast? = some "" ∧ 1 < names.length then names.dropLast else names

/-- Adds a name to the segments of a path. Names for the place itself and for
the place above add nothing, tabs and ends of lines are left out, and the first
name takes the place of an only empty segment. -/
def addSegment (isUsual : Bool) (names : List String) (name : String) :
    List String :=
  if name == "." || name == ".." then names
  else
    let characters := name.toList.filter fun character =>
      !(['\t', '\n', '\r'].contains character)
    let base := if names == [""] then [] else names
    if characters == ['.'] then base ++ [""]
    else if characters == ['.', '.'] then base.dropLast ++ [""]
    else
      base ++ [String.ofList
        (Percent.encode (Percent.inSegment isUsual) characters)]

/-- The URL whose path goes on with some names after the path of another one. -/
def below (url : Url) (names : List String) : Url :=
  match url.path with
  | .opaqueText _ => url
  | .segments segments =>
    { url with
      path :=
        .segments (names.foldl (addSegment url.isUsual)
          (dropEmptyLast segments)) }

def withPairs (url : Url) (pairs : List (String × String)) : Url :=
  let added := pairs.map fun pair =>
    Percent.encodePair pair.1 ++ "=" ++ Percent.encodePair pair.2
  let held := (url.query.filter fun query => !query.isEmpty).toList
  { url with query := some ("&".intercalate (held ++ added)) }

end Url

end Switchyard
