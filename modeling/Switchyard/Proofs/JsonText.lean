import Mathlib.Data.List.DropRight
import Switchyard.Json.Printer
import Switchyard.Json.Reader
import Switchyard.Text.Blank

/-!
# Reading what was written

Whoever reads the text of a value gets that value, be the text compact or
pretty. The two forms are one layout with different white space between the
parts, which the reader skips. The only value that does not come back is the one
that stands for text of no use.
-/

namespace Switchyard.Json

/-- The ways to write a character: as a letter behind a backslash, by its code,
or as itself. -/
inductive Escaped (character : Char) : List Char → Prop where
  | letter {letter : Char} (means : escapedLetter? letter = some character) :
    Escaped character ['\\', letter]
  | code (control : character.toNat < 0x20) :
    Escaped character
      ['\\', 'u', '0', '0', hexDigit (character.toNat / 16),
        hexDigit (character.toNat % 16)]
  | itself (quote : character ≠ '"') (backslash : character ≠ '\\')
      (shown : ¬ character.toNat < 0x20) : Escaped character [character]

theorem escaped_escape (character : Char) :
    Escaped character (escape character) := by
  unfold escape
  by_cases quote : character = '"'
  · subst quote
    exact .letter rfl
  by_cases backslash : character = '\\'
  · subst backslash
    exact .letter rfl
  simp only [beq_eq_false_iff_ne.2 quote, beq_eq_false_iff_ne.2 backslash,
    Bool.false_eq_true, if_false]
  split
  case isTrue backspace => exact .letter (by rw [eq_of_beq backspace]; rfl)
  split
  case isTrue feed => exact .letter (by rw [eq_of_beq feed]; rfl)
  split
  case isTrue line => exact .letter (by rw [eq_of_beq line]; rfl)
  split
  case isTrue carriage => exact .letter (by rw [eq_of_beq carriage]; rfl)
  split
  case isTrue tab => exact .letter (by rw [eq_of_beq tab]; rfl)
  split
  case isTrue control => exact .code control
  case isFalse shown => exact .itself quote backslash shown

theorem number?_hexDigits {code : Nat} (control : code < 0x20) :
    Text.number? 16 ['0', '0', hexDigit (code / 16), hexDigit (code % 16)] =
      some code := by
  have every : ∀ code : Fin 0x20,
      Text.number? 16 ['0', '0', hexDigit (code / 16), hexDigit (code % 16)] =
        some code.1 := by
    decide
  exact every ⟨code, control⟩

theorem escapedUnit?_hexDigits {code : Nat} (control : code < 0x20) :
    escapedUnit? '0' '0' (hexDigit (code / 16)) (hexDigit (code % 16)) =
      some (.whole (Char.ofNat code)) := by
  have low : ¬ (0xD800 ≤ code ∧ code ≤ 0xDFFF) := by omega
  simp only [escapedUnit?, number?_hexDigits control, Option.bind_eq_bind,
    Option.bind_some, low, if_false]

/-- A character is read back from each of its written forms, whatever
follows. -/
theorem Escaped.readPieces_append {character : Char} {written : List Char}
    (escaped : Escaped character written) (rest : List Char) :
    readPieces (written ++ rest) =
      (readPieces rest).map fun read =>
        (.whole character :: read.1, read.2) := by
  cases escaped with
  | @letter letter means =>
    have plain : letter ≠ 'u' := by
      rintro rfl
      cases means
    rw [List.cons_append, List.cons_append, List.nil_append, readPieces]
    · rw [means]
      cases readPieces rest <;> rfl
    · exact fun first second third fourth after same => absurd same plain
  | code control =>
    simp only [List.cons_append, List.nil_append, readPieces,
      escapedUnit?_hexDigits control, Char.ofNat_toNat]
    cases readPieces rest <;> rfl
  | itself quote backslash shown =>
    rw [List.cons_append, List.nil_append, readPieces]
    · simp only [beq_eq_false_iff_ne.2 backslash, shown,
        decide_false, Bool.or_self, Bool.false_eq_true, if_false]
      cases readPieces rest <;> rfl
    · exact quote
    · exact fun first second third fourth after same => absurd same backslash
    · exact fun letter after same => absurd same backslash

theorem readPieces_flatMap_escape (characters rest : List Char) :
    readPieces (characters.flatMap escape ++ '"' :: rest) =
      some (characters.map .whole, rest) := by
  induction characters with
  | nil => rfl
  | cons character characters charactersFact =>
    rw [List.flatMap_cons, List.append_assoc,
      (escaped_escape character).readPieces_append, charactersFact]
    rfl

theorem joinPieces_map_whole (characters : List Char) :
    joinPieces (characters.map .whole) = some characters := by
  induction characters with
  | nil => rfl
  | cons character characters charactersFact =>
    rw [List.map_cons, joinPieces, charactersFact]
    rfl

/-- The inside of a quoted text reads as that text. -/
theorem readText_quote (text : String) (rest : List Char) :
    readText (text.toList.flatMap escape ++ '"' :: rest) =
      some (some text, rest) := by
  simp [readText, readPieces_flatMap_escape, joinPieces_map_whole]

/-- Whether a number that stands before some characters ends there. -/
def EndsNumber (rest : List Char) : Prop :=
  ∀ next ∈ rest.head?,
    next.isDigit = false ∧ next ≠ '.' ∧ next ≠ 'e' ∧ next ≠ 'E'

theorem endsNumber_nil : EndsNumber [] := nofun

theorem skipFraction_of_endsNumber {rest : List Char} (ends : EndsNumber rest) :
    skipFraction rest = some (false, rest) := by
  cases rest with
  | nil => rfl
  | cons next rest =>
    obtain ⟨-, point, -, -⟩ := ends next rfl
    rw [skipFraction]
    exact fun after same => absurd (List.cons.inj same).1 point

theorem skipExponent_of_endsNumber {rest : List Char} (ends : EndsNumber rest) :
    skipExponent rest = some (false, rest) := by
  cases rest with
  | nil => rfl
  | cons next rest =>
    obtain ⟨-, -, small, large⟩ := ends next rfl
    simp [skipExponent, small, large]

theorem digitsValue_toDigits (value : Nat) :
    digitsValue (Nat.toDigits 10 value) = value := by
  have folded : digitsValue (Nat.toDigits 10 value) =
      Nat.ofDigitChars 10 (Nat.toDigits 10 value) 0 := by
    rw [Nat.ofDigitChars_eq_foldl, digitsValue]
    congr 1
    funext before digit
    rw [Nat.mul_comm]
    rfl
  rw [folded, Nat.ofDigitChars_ten_toDigits]

/-- Only zero is written with a leading zero, and with nothing else. -/
theorem head?_toDigits {value : Nat} (positive : value ≠ 0) :
    (Nat.toDigits 10 value).head? ≠ some '0' := by
  induction value using Nat.strongRecOn with
  | ind value smaller =>
    rw [Nat.toDigits_eq_if (by decide)]
    by_cases single : value < 10
    · have every : ∀ digit :
        Fin 10, digit.1 ≠ 0 → digit.1.digitChar ≠ '0' := by decide
      simpa [single] using every ⟨value, single⟩ positive
    · have front := smaller (value / 10) (by omega) (by omega)
      rw [if_neg single, List.head?_append]
      cases digits : (Nat.toDigits 10 (value / 10)).head? with
      | none =>
        exact absurd (List.head?_eq_none_iff.1 digits) Nat.toDigits_ne_nil
      | some first => simpa [digits] using front

theorem isDigit_of_mem_toDigits {value : Nat} {digit : Char}
    (member : digit ∈ Nat.toDigits 10 value) :
    digit.isDigit = true :=
  Nat.isDigit_of_mem_toDigits (by decide) (by decide) member

theorem readUnsigned_toDigits (negative : Bool) {value : Nat}
    (zero : negative → value ≠ 0) {rest : List Char} (ends : EndsNumber rest) :
    readUnsigned negative (Nat.toDigits 10 value ++ rest) =
      some (.int (if negative then -(value : Int) else value), rest) := by
  have apart : rest.takeWhile Char.isDigit = [] ∧
      rest.dropWhile Char.isDigit = rest := by
    cases rest with
    | nil => exact ⟨rfl, rfl⟩
    | cons next rest =>
      obtain ⟨digit, -⟩ := ends next rfl
      simp [digit]
  have digits : (Nat.toDigits 10 value ++ rest).takeWhile Char.isDigit =
      Nat.toDigits 10 value := by
    rw [List.takeWhile_append_of_pos fun _ => isDigit_of_mem_toDigits, apart.1,
      List.append_nil]
  have behind : (Nat.toDigits 10 value ++ rest).dropWhile Char.isDigit =
      rest := by
    rw [List.dropWhile_append_of_pos fun _ => isDigit_of_mem_toDigits, apart.2]
  have wellFormed : ((Nat.toDigits 10 value).isEmpty ||
      ((Nat.toDigits 10 value).head? == some '0' &&
          (Nat.toDigits 10 value).length != 1)) =
        false := by
    by_cases none : value = 0
    · subst none
      rfl
    · simp [Nat.toDigits_ne_nil, head?_toDigits none]
  have nonzero : (negative && value == 0) = false := by
    cases negative with
    | false => rfl
    | true => simpa using zero rfl
  simp only [readUnsigned, digits, behind, wellFormed,
    Bool.false_eq_true, if_false, skipFraction_of_endsNumber ends,
    skipExponent_of_endsNumber ends, Option.bind_eq_bind,
    Option.bind_some, digitsValue_toDigits, nonzero, Bool.or_self]

theorem readNumber_int (value : Int) {rest : List Char}
    (ends : EndsNumber rest) :
    readNumber ((toString value).toList ++ rest) = some (.int value, rest) := by
  rw [Int.toString_eq_repr, Int.repr_eq_if]
  by_cases sign : 0 ≤ value
  · have back : (value.toNat : Int) = value := Int.toNat_of_nonneg sign
    rw [if_pos sign, Nat.toList_repr, readNumber,
      readUnsigned_toDigits false nofun ends]
    · simp only [Bool.false_eq_true, if_false, back]
    · intro after same
      have member : '-' ∈ Nat.toDigits 10 value.toNat := by
        cases digits : Nat.toDigits 10 value.toNat with
        | nil => exact absurd digits Nat.toDigits_ne_nil
        | cons first others =>
          rw [digits] at same
          exact (List.cons.inj same).1 ▸ List.mem_cons_self
      exact absurd (isDigit_of_mem_toDigits member) (by decide)
  · rw [if_neg sign, String.toList_append, Nat.toList_repr]
    have written : "-".toList ++ Nat.toDigits 10 (-value).toNat ++ rest =
        '-' :: (Nat.toDigits 10 (-value).toNat ++ rest) := rfl
    have back : -((-value).toNat : Int) = value := by omega
    rw [written, readNumber,
      readUnsigned_toDigits true (fun _ => by omega) ends]
    simp only [if_true, back]

/-! ## Layouts -/

/-- The white space in a text: what stands before each item or member at a level
of nesting and before the bracket that closes that level, and what stands after
a colon. -/
structure Layout where
  gap : Nat → List Char
  afterColon : List Char
  space_gap : ∀ level, ∀ character ∈ gap level, isSpace character = true
  space_afterColon : ∀ character ∈ afterColon, isSpace character = true

mutual

def Layout.chars (layout : Layout) (level : Nat) : Json → List Char
  | .null => ['n', 'u', 'l', 'l']
  | .bool true => ['t', 'r', 'u', 'e']
  | .bool false => ['f', 'a', 'l', 's', 'e']
  | .int value => (toString value).toList
  | .text value => quote value
  | .array [] => ['[', ']']
  | .array (item :: items) =>
    '[' :: (layout.items (level + 1) (item :: items) ++
      layout.gap level ++ [']'])
  | .object [] => ['{', '}']
  | .object (member :: members) =>
    '{' :: (layout.members (level + 1) (member :: members) ++
      layout.gap level ++ ['}'])
  | .unreadable => ['n', 'u', 'l', 'l']

def Layout.items (layout : Layout) (level : Nat) : List Json → List Char
  | [] => []
  | [item] => layout.gap level ++ layout.chars level item
  | item :: next :: rest =>
    layout.gap level ++ layout.chars level item ++ ',' :: layout.items level
      (next :: rest)

def Layout.members (layout : Layout) (level : Nat) :
    List (String × Json) → List Char
  | [] => []
  | [(key, item)] =>
    layout.gap level ++ quote key ++ ':' ::
      (layout.afterColon ++ layout.chars level item)
  | (key, item) :: next :: rest =>
    layout.gap level ++ quote key ++
      ':' :: (layout.afterColon ++ layout.chars level item ++
        ',' :: layout.members level (next :: rest))

end

def Layout.pretty : Layout where
  gap := newLine
  afterColon := [' ']
  space_gap := by
    intro level character member
    rcases List.mem_cons.1 member with rfl | blank
    · rfl
    · rw [List.eq_of_mem_replicate blank]
      rfl
  space_afterColon := by simp [isSpace]

def Layout.compact : Layout := ⟨fun _ => [], [], nofun, nofun⟩

mutual

theorem compactChars_eq : ∀ (level : Nat) (value : Json),
    compactChars value = Layout.compact.chars level value
  | _, .null | _, .bool true | _, .bool false | _, .int _ | _,
    .text _ | _, .unreadable
  | _, .array [] | _, .object [] => by
    simp only [compactChars, compactItems, compactMembers, Layout.chars,
      List.nil_append]
  | level, .array (item :: items) => by
    simp only [compactChars, Layout.chars,
      compactItems_eq (level + 1) (item :: items)]
    simp only [Layout.compact, List.append_nil]
  | level, .object (member :: members) => by
    simp only [compactChars, Layout.chars,
      compactMembers_eq (level + 1) (member :: members)]
    simp only [Layout.compact, List.append_nil]

theorem compactItems_eq : ∀ (level : Nat) (items : List Json),
    compactItems items = Layout.compact.items level items
  | _, [] => by simp only [compactItems, Layout.items]
  | level, [item] => by
    simp only [compactItems, Layout.items, compactChars_eq level item]
    rfl
  | level, item :: next :: rest => by
    simp only [compactItems, Layout.items, compactChars_eq level item,
      compactItems_eq level (next :: rest)]
    rfl

theorem compactMembers_eq : ∀ (level : Nat) (members : List (String × Json)),
    compactMembers members = Layout.compact.members level members
  | _, [] => by simp only [compactMembers, Layout.members]
  | level, [(key, item)] => by
    simp only [compactMembers, Layout.members, compactChars_eq level item]
    rfl
  | level, (key, item) :: next :: rest => by
    simp only [compactMembers, Layout.members, compactChars_eq level item,
      compactMembers_eq level (next :: rest)]
    rfl

end

mutual

theorem prettyChars_eq : ∀ (level : Nat) (value : Json),
    prettyChars level value = Layout.pretty.chars level value
  | _, .null | _, .bool true | _, .bool false | _, .int _ | _,
    .text _ | _, .unreadable
  | _, .array [] | _, .object [] => by simp only [prettyChars, Layout.chars]
  | level, .array (item :: items) => by
    simp only [prettyChars, Layout.chars,
      prettyItems_eq (level + 1) (item :: items)]
    rfl
  | level, .object (member :: members) => by
    simp only [prettyChars, Layout.chars,
      prettyMembers_eq (level + 1) (member :: members)]
    rfl

theorem prettyItems_eq : ∀ (level : Nat) (items : List Json),
    prettyItems level items = Layout.pretty.items level items
  | _, [] => by simp only [prettyItems, Layout.items]
  | level, [item] => by
    simp only [prettyItems, Layout.items, prettyChars_eq level item]
    rfl
  | level, item :: next :: rest => by
    simp only [prettyItems, Layout.items, prettyChars_eq level item,
      prettyItems_eq level (next :: rest)]
    rfl

theorem prettyMembers_eq : ∀ (level : Nat) (members : List (String × Json)),
    prettyMembers level members = Layout.pretty.members level members
  | _, [] => by simp only [prettyMembers, Layout.members]
  | level, [(key, item)] => by
    simp only [prettyMembers, Layout.members, prettyChars_eq level item]
    rfl
  | level, (key, item) :: next :: rest => by
    simp only [prettyMembers, Layout.members, prettyChars_eq level item,
      prettyMembers_eq level (next :: rest)]
    rfl

end

mutual

/-- Whether no part of a value stands for text of no use. -/
def isReadable : Json → Bool
  | .array items => allReadable items
  | .object members => membersReadable members
  | .unreadable => false
  | _ => true

def allReadable : List Json → Bool
  | [] => true
  | item :: items => isReadable item && allReadable items

def membersReadable : List (String × Json) → Bool
  | [] => true
  | (_, item) :: members => isReadable item && membersReadable members

end

section Reading

variable {layout : Layout} {depth level : Nat} {blank rest : List Char}

theorem skipSpace_append (space : ∀ character ∈ blank, isSpace character = true)
    (rest : List Char) : skipSpace (blank ++ rest) = skipSpace rest :=
  List.dropWhile_append_of_pos space

theorem skipSpace_cons {first : Char} (shown : isSpace first = false)
    (rest : List Char) :
    skipSpace (first :: rest) = first :: rest :=
  List.dropWhile_cons_of_neg (by simp [shown])

theorem endsNumber_append
    (space : ∀ character ∈ blank, isSpace character = true)
    (ends : EndsNumber rest) : EndsNumber (blank ++ rest) := by
  cases blank with
  | nil => exact ends
  | cons first blank =>
    intro next found
    obtain rfl : first = next := Option.some.inj found
    have white := space first List.mem_cons_self
    simp only [isSpace, Bool.or_eq_true, beq_iff_eq] at white
    rcases white with ((rfl | rfl) | rfl) | rfl <;> decide

theorem endsNumber_cons {mark : Char}
    (known : mark = ',' ∨ mark = ']' ∨ mark = '}') :
    EndsNumber (mark :: rest) := by
  intro next found
  obtain rfl : mark = next := Option.some.inj found
  rcases known with rfl | rfl | rfl <;> decide

theorem skipSpace_skipSpace (characters : List Char) :
    skipSpace (skipSpace characters) = skipSpace characters :=
  List.dropWhile_idempotent _ characters

theorem readValue_skipSpace (depth : Nat) (characters : List Char) :
    readValue depth (skipSpace characters) = readValue depth characters := by
  cases depth with
  | zero => rfl
  | succ depth => simp only [readValue, skipSpace_skipSpace]

theorem readItems_skipSpace (depth : Nat) (characters : List Char) :
    readItems depth (skipSpace characters) = readItems depth characters := by
  cases depth with
  | zero => rfl
  | succ depth => simp only [readItems, readValue_skipSpace]

theorem readMembers_skipSpace (depth : Nat) (characters : List Char) :
    readMembers depth (skipSpace characters) =
      readMembers depth characters := by
  cases depth with
  | zero => rfl
  | succ depth => simp only [readMembers, skipSpace_skipSpace]

theorem readValue_append (space : ∀ character ∈ blank, isSpace character = true)
    (depth : Nat) (rest : List Char) :
    readValue depth (blank ++ rest) = readValue depth rest := by
  rw [← readValue_skipSpace, skipSpace_append space, readValue_skipSpace]

/-- What a number begins with. -/
def BeginsNumber (first : Char) : Prop := first = '-' ∨ first.isDigit = true

theorem BeginsNumber.ne {first mark : Char} (begins : BeginsNumber first)
    (apart : ¬ BeginsNumber mark) : first ≠ mark :=
  fun same => apart (same ▸ begins)

instance (first : Char) : Decidable (BeginsNumber first) :=
  inferInstanceAs (Decidable (_ ∨ _))

theorem isSpace_eq_false_of_isWhite {character : Char}
    (shown : Text.isWhite character = false) :
    isSpace character = false := by
  by_contra space
  simp only [isSpace, Bool.not_eq_false, Bool.or_eq_true, beq_iff_eq] at space
  rcases space with ((rfl | rfl) | rfl) | rfl <;> cases shown

theorem BeginsNumber.isWhite_eq_false {first : Char}
    (begins : BeginsNumber first) :
    Text.isWhite first = false := by
  rcases begins with rfl | digit
  · rfl
  · exact Text.isWhite_eq_false_of_isAlphanum
      (Bool.or_eq_true_iff.2 (.inr digit))

theorem BeginsNumber.isSpace_eq_false {first : Char}
    (begins : BeginsNumber first) :
    isSpace first = false :=
  isSpace_eq_false_of_isWhite begins.isWhite_eq_false

theorem readValue_number {first : Char}
    (begins : BeginsNumber first) (depth : Nat)
    (rest : List Char) :
    readValue (depth + 1) (first :: rest) = readNumber (first :: rest) := by
  rw [readValue, skipSpace_cons begins.isSpace_eq_false]
  split
  all_goals
    first
    | rfl
    | rename_i same
      exact absurd (List.cons.inj same).1 (begins.ne (by decide))

theorem exists_toString_eq_cons (value : Int) :
    ∃ first others, (toString value).toList = first :: others ∧
      BeginsNumber first := by
  rw [Int.toString_eq_repr, Int.repr_eq_if]
  by_cases sign : 0 ≤ value
  · rw [if_pos sign, Nat.toList_repr]
    cases digits : Nat.toDigits 10 value.toNat with
    | nil => exact absurd digits Nat.toDigits_ne_nil
    | cons first others =>
      exact ⟨first, others, rfl,
        .inr (isDigit_of_mem_toDigits (digits ▸ List.mem_cons_self))⟩
  · rw [if_neg sign, String.toList_append]
    exact ⟨'-', _, rfl, .inl rfl⟩

/-- A value starts with something that is neither white space nor the end of an
array. -/
theorem exists_chars_eq_cons (layout : Layout) (level : Nat) (value : Json) :
    ∃ first others, layout.chars level value = first :: others ∧
      Text.isWhite first = false ∧ first ≠ ']' := by
  cases value with
  | int value =>
    obtain ⟨first, others, equality, begins⟩ := exists_toString_eq_cons value
    exact ⟨first, others, by rw [Layout.chars, equality],
      begins.isWhite_eq_false, begins.ne (by decide)⟩
  | bool value =>
    cases value <;> exact ⟨_, _, by rw [Layout.chars], rfl, by decide⟩
  | array items =>
    cases items <;> exact ⟨_, _, by rw [Layout.chars], rfl, by decide⟩
  | object members =>
    cases members <;> exact ⟨_, _, by rw [Layout.chars], rfl, by decide⟩
  | null => exact ⟨_, _, by rw [Layout.chars], rfl, by decide⟩
  | text value => exact ⟨_, _, by rw [Layout.chars, quote], rfl, by decide⟩
  | unreadable => exact ⟨_, _, by rw [Layout.chars], rfl, by decide⟩

theorem readValue_int (value : Int) (depth : Nat) (ends : EndsNumber rest) :
    readValue (depth + 1) ((toString value).toList ++ rest) =
      some (.int value, rest) := by
  obtain ⟨first, others, equality, begins⟩ := exists_toString_eq_cons value
  have read := readNumber_int value ends
  rw [equality, List.cons_append] at read ⊢
  rw [readValue_number begins, read]

theorem readValue_quote (text : String) (depth : Nat) (rest : List Char) :
    readValue (depth + 1) (quote text ++ rest) = some (.text text, rest) := by
  have written : quote text ++ rest =
      '"' :: (text.toList.flatMap escape ++ '"' :: rest) := by
    simp [quote]
  rw [written, readValue, skipSpace_cons rfl]
  simp only [readText_quote, Option.bind_eq_bind, Option.bind_some,
    Option.map_some, Option.getD_some]

theorem ofMembers_map (members : List (String × Json)) :
    ofMembers (members.map fun member => (some member.1, member.2)) =
      .object members := by
  have named : (members.map fun member => (some member.1, member.2)).mapM
      (fun member => member.1.map fun key => (key, member.2)) =
        some members := by
    induction members with
    | nil => rfl
    | cons member members membersFact =>
      simp [membersFact]
  rw [ofMembers, named]

theorem readValue_array {characters : List Char} {items : List Json}
    (more : ∀ after, skipSpace characters ≠ ']' :: after)
    (read : readItems depth characters = some (items, rest)) :
    readValue (depth + 1) ('[' :: characters) = some (.array items, rest) := by
  have bracket : skipSpace ('[' :: characters) = '[' :: characters := rfl
  simp only [readValue, bracket, readItems_skipSpace, read, Option.bind_eq_bind,
    Option.bind_some]

theorem readValue_object {characters : List Char}
    {members : List (String × Json)}
    (more : ∀ after, skipSpace characters ≠ '}' :: after)
    (read : readMembers depth characters =
      some (members.map fun member => (some member.1, member.2), rest)) :
    readValue (depth + 1) ('{' :: characters) =
      some (.object members, rest) := by
  have bracket : skipSpace ('{' :: characters) = '{' :: characters := rfl
  simp only [readValue, bracket, readMembers_skipSpace, read,
    Option.bind_eq_bind, Option.bind_some, ofMembers_map]

theorem readItems_last {characters after : List Char} {item : Json}
    (read : readValue depth characters = some (item, after))
    (closes : skipSpace after = ']' :: rest) :
    readItems (depth + 1) characters = some ([item], rest) := by
  simp only [readItems, read, Option.bind_eq_bind, Option.bind_some, closes]

theorem readItems_more {characters after onward : List Char} {item : Json}
    {items : List Json} (read : readValue depth characters = some (item, after))
    (goesOn : skipSpace after = ',' :: onward)
    (others : readItems depth onward = some (items, rest)) :
    readItems (depth + 1) characters = some (item :: items, rest) := by
  simp only [readItems, read, Option.bind_eq_bind, Option.bind_some,
    goesOn, others]

/-- What is read of an object from the end of one of its members on. -/
def readAfterMember (depth : Nat) (member : Option String × Json)
    (characters : List Char) :
    Option (List (Option String × Json) × List Char) :=
  match skipSpace characters with
  | '}' :: rest => some ([member], rest)
  | ',' :: rest => do
    let (members, rest) ← readMembers depth rest
    some (member :: members, rest)
  | _ => none

theorem readMembers_member {value after : List Char} {item : Json}
    (key : String) (space : ∀ character ∈ blank, isSpace character = true)
    (read : readValue depth value = some (item, after)) :
    readMembers (depth + 1) (blank ++ (quote key ++ ':' :: value)) =
      readAfterMember depth (some key, item) after := by
  have written : quote key ++ ':' :: value =
      '"' :: (key.toList.flatMap escape ++ '"' :: ':' :: value) := by
    simp [quote]
  have quoted (after : List Char) :
    skipSpace ('"' :: after) = '"' :: after := rfl
  have colon (after : List Char) :
    skipSpace (':' :: after) = ':' :: after := rfl
  rw [written]
  simp only [readMembers, skipSpace_append space, quoted,
    readText_quote, colon, read, Option.bind_eq_bind, Option.bind_some]
  rfl

/-! ## Reading a written value -/

/-- The items of an array start with something that does not end the array. -/
theorem skipSpace_items_ne (layout : Layout) (level : Nat) (item : Json)
    (items : List Json) (rest after : List Char) :
    skipSpace (layout.items level (item :: items) ++ rest) ≠ ']' :: after := by
  obtain ⟨first, others, begins, shown, other⟩ :=
    exists_chars_eq_cons layout level item
  have written : ∃ later, layout.items level (item :: items) ++ rest =
      layout.gap level ++ first :: later := by
    cases items with
    | nil => exact ⟨others ++ rest, by simp [Layout.items, begins]⟩
    | cons next items =>
      exact ⟨others ++ ',' :: layout.items level (next :: items) ++ rest, by
        simp [Layout.items, begins]⟩
  obtain ⟨later, equality⟩ := written
  rw [equality, skipSpace_append (layout.space_gap level),
    skipSpace_cons (isSpace_eq_false_of_isWhite shown)]
  exact fun same => other (List.cons.inj same).1

/-- The members of an object start with something that does not end the
object. -/
theorem skipSpace_members_ne (layout : Layout) (level : Nat)
    (member : String × Json) (members : List (String × Json))
    (rest after : List Char) :
    skipSpace (layout.members level (member :: members) ++ rest) ≠
      '}' :: after := by
  have written : ∃ later, layout.members level (member :: members) ++ rest =
      layout.gap level ++ '"' :: later := by
    cases members with
    | nil => simp [Layout.members, quote]
    | cons next members => simp [Layout.members, quote]
  obtain ⟨later, equality⟩ := written
  rw [equality, skipSpace_append (layout.space_gap level)]
  exact fun same => absurd (List.cons.inj same).1 (by decide)

mutual

/-- A value is read back from its text in any layout, as long as no number runs
on in what follows. -/
theorem readValue_chars :
    ∀ (value : Json) (level depth : Nat) (rest : List Char),
    value.isReadable = true → (layout.chars level value).length ≤ depth →
      EndsNumber rest →
    readValue depth (layout.chars level value ++ rest) = some (value, rest)
  | value, level, 0, _ => by
    intro _ bound
    obtain ⟨first, others, equality, -⟩ :=
      exists_chars_eq_cons layout level value
    rw [equality] at bound
    exact absurd bound (by simp)
  | .null, _, depth + 1, rest => by
    intro _ _ _
    rw [Layout.chars]
    rfl
  | .bool true, _, depth + 1, rest => by
    intro _ _ _
    rw [Layout.chars]
    rfl
  | .bool false, _, depth + 1, rest => by
    intro _ _ _
    rw [Layout.chars]
    rfl
  | .int value, _, depth + 1, rest => by
    intro _ _ ends
    rw [Layout.chars]
    exact readValue_int value depth ends
  | .text value, _, depth + 1, rest => by
    intro _ _ _
    rw [Layout.chars]
    exact readValue_quote value depth rest
  | .array [], _, depth + 1, rest => by
    intro _ _ _
    rw [Layout.chars]
    rfl
  | .array (item :: items), level, depth + 1, rest => by
    intro readable bound _
    rw [isReadable] at readable
    simp only [Layout.chars, List.length_cons, List.length_append] at bound
    have inside :=
      readItems_items (item :: items) (List.cons_ne_nil _ _) (level + 1) depth
        (layout.gap level) rest readable (by omega) (layout.space_gap level)
    have written : layout.chars level (.array (item :: items)) ++ rest =
        '[' :: (layout.items (level + 1) (item :: items) ++
          (layout.gap level ++ ']' :: rest)) := by
      simp [Layout.chars]
    rw [written]
    exact readValue_array
      (skipSpace_items_ne layout (level + 1) item items _) inside
  | .object [], _, depth + 1, rest => by
    intro _ _ _
    rw [Layout.chars]
    rfl
  | .object (member :: members), level, depth + 1, rest => by
    intro readable bound _
    rw [isReadable] at readable
    simp only [Layout.chars, List.length_cons, List.length_append] at bound
    have inside :=
      readMembers_members (member :: members) (List.cons_ne_nil _ _)
        (level + 1) depth (layout.gap level) rest readable (by omega)
        (layout.space_gap level)
    have written : layout.chars level (.object (member :: members)) ++ rest =
        '{' :: (layout.members (level + 1) (member :: members) ++
          (layout.gap level ++ '}' :: rest)) := by
      simp [Layout.chars]
    rw [written]
    exact readValue_object
      (skipSpace_members_ne layout (level + 1) member members _) inside
  | .unreadable, _, _ + 1, _ => by
    intro readable
    cases readable

theorem readItems_items : ∀ (items : List Json), items ≠ [] →
    ∀ (level depth : Nat) (closing rest : List Char), allReadable items = true →
      (layout.items level items).length < depth →
      (∀ character ∈ closing, isSpace character = true) →
      readItems depth (layout.items level items ++ (closing ++ ']' :: rest)) =
        some (items, rest)
  | [], nonempty => absurd rfl nonempty
  | [item], _ => by
    intro level depth closing rest readable bound space
    obtain ⟨depth, rfl⟩ :=
      Nat.exists_eq_add_one_of_ne_zero (Nat.ne_zero_of_lt bound)
    simp only [allReadable, Bool.and_true] at readable
    simp only [Layout.items, List.length_append] at bound
    have ends : EndsNumber (closing ++ ']' :: rest) :=
      endsNumber_append space (endsNumber_cons (.inr (.inl rfl)))
    have read := readValue_chars item level depth _ readable (by omega) ends
    rw [Layout.items, List.append_assoc]
    refine readItems_last
      ((readValue_append (layout.space_gap level) _ _).trans read) ?_
    rw [skipSpace_append space]
    rfl
  | item :: next :: others, _ => by
    intro level depth closing rest readable bound space
    obtain ⟨depth, rfl⟩ :=
      Nat.exists_eq_add_one_of_ne_zero (Nat.ne_zero_of_lt bound)
    rw [allReadable, Bool.and_eq_true] at readable
    simp only [Layout.items, List.length_append, List.length_cons] at bound
    have onward :=
      readItems_items (next :: others) (List.cons_ne_nil _ _) level
        depth closing rest readable.2 (by omega) space
    have read := readValue_chars item level depth
      (',' :: (layout.items level (next :: others) ++ (closing ++ ']' :: rest)))
      readable.1 (by omega) (endsNumber_cons (.inl rfl))
    rw [Layout.items, List.append_assoc, List.append_assoc, List.cons_append]
    exact readItems_more
      ((readValue_append (layout.space_gap level) _ _).trans read) rfl onward

theorem readMembers_members : ∀ (members : List (String × Json)), members ≠ [] →
    ∀ (level depth : Nat) (closing rest : List Char),
      membersReadable members = true →
      (layout.members level members).length < depth →
      (∀ character ∈ closing, isSpace character = true) →
      readMembers depth (layout.members level members ++
          (closing ++ '}' :: rest)) =
        some (members.map fun member => (some member.1, member.2), rest)
  | [], nonempty => absurd rfl nonempty
  | [(key, item)], _ => by
    intro level depth closing rest readable bound space
    obtain ⟨depth, rfl⟩ :=
      Nat.exists_eq_add_one_of_ne_zero (Nat.ne_zero_of_lt bound)
    simp only [membersReadable, Bool.and_true] at readable
    simp only [Layout.members, List.length_append, List.length_cons] at bound
    have ends : EndsNumber (closing ++ '}' :: rest) :=
      endsNumber_append space (endsNumber_cons (.inr (.inr rfl)))
    have read := readValue_chars item level depth _ readable (by omega) ends
    simp only [Layout.members, List.append_assoc, List.cons_append]
    rw [readMembers_member key (layout.space_gap level)
        ((readValue_append layout.space_afterColon _ _).trans read),
          readAfterMember,
      skipSpace_append space]
    rfl
  | (key, item) :: next :: others, _ => by
    intro level depth closing rest readable bound space
    obtain ⟨depth, rfl⟩ :=
      Nat.exists_eq_add_one_of_ne_zero (Nat.ne_zero_of_lt bound)
    rw [membersReadable, Bool.and_eq_true] at readable
    simp only [Layout.members, List.length_append, List.length_cons] at bound
    have onward :=
      readMembers_members (next :: others) (List.cons_ne_nil _ _)
        level depth closing rest readable.2 (by omega) space
    have read := readValue_chars item level depth
      (',' :: (layout.members level (next :: others) ++
        (closing ++ '}' :: rest))) readable.1
      (by omega) (endsNumber_cons (.inl rfl))
    simp only [Layout.members, List.append_assoc, List.cons_append]
    rw [readMembers_member key (layout.space_gap level)
        ((readValue_append layout.space_afterColon _ _).trans read)]
    change (do
      let (members, rest) ← readMembers depth
        (layout.members level (next :: others) ++ (closing ++ '}' :: rest))
      some ((some key, item) :: members, rest)) = _
    rw [onward]
    rfl

end

/-- The text of a value in any layout reads as that value. -/
theorem parse?_chars (layout : Layout) {value : Json}
    (readable : value.isReadable = true) :
    parse? (String.ofList (layout.chars 0 value)) = some value := by
  have read : readValue (2 * (layout.chars 0 value).length + 2)
      (layout.chars 0 value ++ []) = some (value, []) :=
    readValue_chars value 0 _ [] readable (by omega) endsNumber_nil
  rw [List.append_nil] at read
  simp only [parse?, String.toList_ofList, read, Option.bind_eq_bind,
    Option.bind_some]
  rfl

theorem parse?_compact {value : Json} (readable : value.isReadable = true) :
    parse? value.compact = some value := by
  rw [compact, compactChars_eq 0]
  exact parse?_chars .compact readable

theorem parse?_pretty {value : Json} (readable : value.isReadable = true) :
    parse? value.pretty = some value := by
  rw [pretty, prettyChars_eq]
  exact parse?_chars .pretty readable

end Reading

theorem isBlank_pretty (value : Json) : Text.isBlank value.pretty = false := by
  obtain ⟨first, others, begins, shown, -⟩ :=
    exists_chars_eq_cons .pretty 0 value
  rw [pretty, prettyChars_eq, Text.isBlank, String.toList_ofList, begins,
    List.all_cons, shown]
  rfl

end Switchyard.Json
