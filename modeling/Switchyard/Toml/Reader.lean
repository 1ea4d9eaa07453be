import Switchyard.Toml.Document
import Switchyard.Toml.Scalar
import Switchyard.Toml.Strings

/-!
# Reading TOML text

A TOML text is read line by line into statements, and these make up the
document. Arrays may go over several lines; tables between braces may not.
Values may be nested to a depth of eighty.
-/

namespace Switchyard.Toml

def depthLimit : Nat := 80

/-- The characters after a comment that comes at once, if its characters may
stand in a comment. -/
def skipComment? : List Char → Option (List Char)
  | '#' :: rest =>
    match rest.dropWhile isPlain with
    | [] => some []
    | '\n' :: after => some ('\n' :: after)
    | '\r' :: '\n' :: after => some ('\r' :: '\n' :: after)
    | _ => none
  | rest => some rest

/-- The characters after the end of a line, before which only blanks and a
comment stand. -/
def skipLine? (characters : List Char) : Option (List Char) := do
  match ← skipComment? (skipSpace characters) with
  | [] => some []
  | '\n' :: rest => some rest
  | '\r' :: '\n' :: rest => some rest
  | _ => none

/-- The characters after blanks, comments and ends of lines, of which there are
no more than a bound says. -/
def skipLines : Nat → List Char → Option (List Char)
  | 0, characters => some characters
  | more + 1, characters =>
    match skipSpace characters with
    | '\n' :: rest => skipLines more rest
    | '\r' :: '\n' :: rest => skipLines more rest
    | '#' :: rest => do skipLines more (← skipComment? ('#' :: rest))
    | rest => some rest

mutual

/-- Reads a value. The first number bounds the steps, the second one is the
depth that is left. -/
def readValue : Nat → Nat → List Char → Option (Json × List Char)
  | 0, _, _ => none
  | steps + 1, depth, characters =>
    match characters with
    | '"' :: _ =>
      (readString characters).map fun read => (.text read.1, read.2)
    | '\'' :: _ =>
      (readString characters).map fun read => (.text read.1, read.2)
    | '[' :: rest =>
      match depth with
      | 0 => none
      | depth + 1 => do
        let (items, rest) ← readItems steps depth rest
        some (.array items, rest)
    | '\x7b' :: rest =>
      match depth with
      | 0 => none
      | depth + 1 =>
        match skipSpace rest with
        | '\x7d' :: rest => some (.object [], rest)
        | rest => do
          let (pairs, rest) ← readPairs steps depth rest
          some (← inlineTable? pairs, rest)
    | characters => do
      let (written, rest) := splitScalar characters
      some (← scalar? written, rest)

/-- Reads the items of an array up to its closing bracket. A comma may follow
the last item. -/
def readItems : Nat → Nat → List Char → Option (List Json × List Char)
  | 0, _, _ => none
  | steps + 1, depth, characters => do
    match ← skipLines characters.length characters with
    | ']' :: rest => some ([], rest)
    | rest =>
      let (item, rest) ← readValue steps depth rest
      match ← skipLines rest.length rest with
      | ',' :: rest =>
        let (items, rest) ← readItems steps depth rest
        some (item :: items, rest)
      | ']' :: rest => some ([item], rest)
      | _ => none

/-- Reads the pairs of a table between braces up to its closing brace. -/
def readPairs : Nat → Nat → List Char →
    Option (List (List String × Json) × List Char)
  | 0, _, _ => none
  | steps + 1, depth, characters => do
    let (key, rest) ← readKey depthLimit characters
    let '=' :: rest := rest | none
    let (value, rest) ← readValue steps depth (skipSpace rest)
    match skipSpace rest with
    | ',' :: rest =>
      let (pairs, rest) ← readPairs steps depth rest
      some ((key, value) :: pairs, rest)
    | '\x7d' :: rest => some ([(key, value)], rest)
    | _ => none

end

def readStatement (characters : List Char) :
    Option (Option Statement × List Char) :=
  match skipSpace characters with
  | [] => some (none, [])
  | '#' :: rest => some (none, '#' :: rest)
  | '\n' :: rest => some (none, '\n' :: rest)
  | '\r' :: rest => some (none, '\r' :: rest)
  | '[' :: '[' :: rest => do
    let (key, rest) ← readKey depthLimit rest
    let ']' :: ']' :: rest := rest | none
    some (some (.listTable key), rest)
  | '[' :: rest => do
    let (key, rest) ← readKey depthLimit rest
    let ']' :: rest := rest | none
    some (some (.table key), rest)
  | rest => do
    let (key, rest) ← readKey depthLimit rest
    let '=' :: rest := rest | none
    let (value, rest) ← readValue (2 * rest.length + 2) depthLimit
      (skipSpace rest)
    some (some (.pair key value), rest)

def readLines : Nat → List Char → Option (List Statement)
  | _, [] => some []
  | 0, _ :: _ => none
  | more + 1, characters => do
    let (statement, rest) ← readStatement characters
    let statements ← readLines more (← skipLine? rest)
    some (statement.toList ++ statements)

/-- The value of a TOML text. A mark of the byte order may stand in front of
it. -/
def parse? (text : String) : Option Json :=
  let characters := match text.toList with
    | '\ufeff' :: rest => rest
    | characters => characters
  (readLines characters.length characters).bind documentOf?

end Switchyard.Toml
