import Switchyard.Toml.Reader

/-!
# What is read of a string between quotes

Between quotes a character stands for itself unless it is a quote, a backslash
or one of U+0000 to U+0008, U+000A to U+001F and U+007F. With an escape fewer
characters are meant than are written, and with three quotes at the beginning
some of the quotes are not part of the text. So a text that is put between
quotes comes out as itself only if each of its characters stands for itself,
whatever else can be read of it.
-/

namespace Switchyard.Toml

/-- Whether a character between quotes stands for itself. -/
def StandsForItself (character : Char) : Prop :=
  isPlain character = true ∧ character ≠ '"' ∧ character ≠ '\\'

instance (character : Char) : Decidable (StandsForItself character) :=
  inferInstanceAs (Decidable (_ ∧ _ ∧ _))

theorem andThen_eq_some_iff {character : Option Char}
    {reading : Option (List Char × List Char)} {inside rest : List Char} :
    andThen character reading = some (inside, rest) ↔
      ∃ first others, character = some first ∧ reading = some (others, rest) ∧
        inside = first :: others := by
  unfold andThen
  cases character with
  | none => simp
  | some first =>
    cases reading with
    | none => simp
    | some read =>
      obtain ⟨others, after⟩ := read
      constructor
      · intro same
        cases same
        exact ⟨first, others, rfl, rfl, rfl⟩
      · rintro ⟨_, _, ⟨⟩, ⟨⟩, rfl⟩
        rfl

theorem readQuoted_cons {character : Char} (itself : StandsForItself character)
    (rest : List Char) :
    readQuoted (character :: rest) =
      andThen (some character) (readQuoted rest) := by
  obtain ⟨visible, quote, backslash⟩ := itself
  rw [readQuoted, if_pos visible]
  · exact quote
  · exact fun _ _ _ _ _ escape => absurd escape backslash
  · exact fun _ _ _ _ _ _ _ _ _ escape => absurd escape backslash
  · exact fun _ _ escape => absurd escape backslash

theorem readQuoted_append {characters : List Char}
    (plain : ∀ character ∈ characters, StandsForItself character)
    (rest : List Char) :
    readQuoted (characters ++ '"' :: rest) = some (characters, rest) := by
  induction characters with
  | nil => rfl
  | cons character characters charactersFact =>
    have onward := charactersFact fun other member =>
      plain other (List.mem_cons_of_mem _ member)
    rw [List.cons_append,
      readQuoted_cons (plain character List.mem_cons_self), onward]
    rfl

/-- How a string between quotes can have been read: its characters all stand for
themselves, or there are fewer of them than were read. -/
def ReadAs (characters inside rest : List Char) : Prop :=
  (characters = inside ++ '"' :: rest ∧
      ∀ character ∈ inside, StandsForItself character) ∨
    inside.length + rest.length + 1 < characters.length

section ReadAs

variable {characters tail inside rest : List Char}

theorem ReadAs.length_le (readAs : ReadAs characters inside rest) :
    inside.length + rest.length + 1 ≤ characters.length := by
  rcases readAs with ⟨rfl, -⟩ | shorter
  · simp [Nat.add_assoc]
  · exact Nat.le_of_lt shorter

theorem ReadAs.escaped (readAs : ReadAs tail inside rest) (first : Char)
    (longer : tail.length + 2 ≤ characters.length) :
    ReadAs characters (first :: inside) rest := by
  have bound := readAs.length_le
  refine .inr ?_
  rw [List.length_cons]
  omega

theorem ReadAs.cons (readAs : ReadAs tail inside rest) {first : Char}
    (itself : StandsForItself first) :
    ReadAs (first :: tail) (first :: inside) rest := by
  rcases readAs with ⟨rfl, plain⟩ | shorter
  · exact .inl ⟨rfl, List.forall_mem_cons.2 ⟨itself, plain⟩⟩
  · refine .inr ?_
    rw [List.length_cons, List.length_cons]
    omega

theorem readAs_of_readQuoted
    (read : readQuoted characters = some (inside, rest)) :
    ReadAs characters inside rest := by
  -- The three escapes make one character of several, so only the last way of
  -- reading a character can lead to a text that is as long as what is written.
  fun_induction readQuoted characters generalizing inside rest with
  | case1 => cases read
  | case2 tail =>
    cases read
    exact .inl ⟨rfl, by simp⟩
  | case3 a b c d tail tailFact =>
    obtain ⟨first, others, -, onward, rfl⟩ := andThen_eq_some_iff.1 read
    exact (tailFact onward).escaped first (by simp)
  | case4 a b c d e f g h tail tailFact =>
    obtain ⟨first, others, -, onward, rfl⟩ := andThen_eq_some_iff.1 read
    exact (tailFact onward).escaped first (by simp)
  | case5 letter tail _ _ tailFact =>
    obtain ⟨first, others, -, onward, rfl⟩ := andThen_eq_some_iff.1 read
    exact (tailFact onward).escaped first (by simp)
  | case6 character tail quote _ _ backslash visible tailFact =>
    obtain ⟨first, others, same, onward, rfl⟩ := andThen_eq_some_iff.1 read
    obtain rfl := Option.some.inj same
    -- A backslash that begins no escape is the last character, and then no
    -- quote follows it.
    have unescaped : character ≠ '\\' := by
      rintro rfl
      cases tail with
      | nil => cases onward
      | cons letter tail => exact backslash letter tail rfl rfl
    exact (tailFact onward).cons ⟨visible, quote, unescaped⟩
  | case7 => cases read

/-- Between three quotes no more characters can be meant than are written. -/
theorem length_of_readQuotedLines {trimming : Bool}
    (read : readQuotedLines trimming characters = some (inside, rest)) :
    inside.length + rest.length + 3 ≤ characters.length := by
  -- What is read ends with three to five quotes, is left out, or is one
  -- character of the text.
  fun_induction readQuotedLines trimming characters generalizing inside rest
  case case1 | case17 => cases read
  case case6 | case7 | case8 =>
    cases read
    simp only [List.length_cons, List.length_nil]
    omega
  case case2 tailFact | case3 tailFact | case4 tailFact | case5 tailFact |
    case11 tailFact | case12 tailFact =>
    have bound := tailFact read
    simp only [List.length_cons]
    omega
  case case9 tailFact | case10 tailFact | case13 tailFact | case14 tailFact |
    case15 tailFact | case16 tailFact =>
    obtain ⟨first, others, -, onward, rfl⟩ := andThen_eq_some_iff.1 read
    have bound := tailFact onward
    simp only [List.length_cons]
    omega

theorem length_skipLineEnd (characters : List Char) :
    (skipLineEnd characters).length ≤ characters.length := by
  unfold skipLineEnd
  split
  · simp
  · simp only [List.length_cons]
    omega
  · exact Nat.le_refl _

theorem readString_of_quote {behind : List Char}
    (single : ∀ more, behind ≠ '"' :: '"' :: more) :
    readString ('"' :: behind) =
      (readQuoted behind).map fun read => (String.ofList read.1, read.2) := by
  unfold readString
  split
  · next same =>
    cases same
    exact absurd rfl (single _)
  · next same =>
    cases same
    rfl
  · next same => cases same
  · next same => cases same
  · next other _ _ => exact absurd rfl (other behind)

theorem readAs_of_readString {behind : List Char} {text : String}
    (read : readString ('"' :: behind) = some (text, rest)) :
    ReadAs behind text.toList rest := by
  rcases Classical.em (∃ more, behind = '"' :: '"' :: more) with
    ⟨more, rfl⟩ | single
  · obtain ⟨⟨inside, after⟩, quoted, same⟩ := Option.map_eq_some_iff.1 read
    cases same
    have bound := length_of_readQuotedLines quoted
    have fewer := length_skipLineEnd more
    refine .inr ?_
    simp only [String.toList_ofList, List.length_cons]
    omega
  · rw [readString_of_quote fun more same => single ⟨more, same⟩] at read
    obtain ⟨⟨inside, after⟩, quoted, same⟩ := Option.map_eq_some_iff.1 read
    cases same
    rw [String.toList_ofList]
    exact readAs_of_readQuoted quoted

/-- A text in quotes is read as itself exactly if each of its characters stands
for itself. -/
theorem readString_eq_self_iff {text : String} {rest : List Char} :
    readString ('"' :: (text.toList ++ ['"'])) = some (text, rest) ↔
      rest = [] ∧ ∀ character ∈ text.toList, StandsForItself character := by
  constructor
  · intro read
    rcases readAs_of_readString read with ⟨written, plain⟩ | shorter
    · have behind := List.append_cancel_left written
      exact ⟨(List.cons.inj behind).2.symm, plain⟩
    · rw [List.length_append, List.length_singleton] at shorter
      omega
  · rintro ⟨rfl, plain⟩
    have single (more : List Char) :
        text.toList ++ ['"'] ≠ '"' :: '"' :: more := by
      intro same
      cases written : text.toList with
      | nil =>
        rw [written] at same
        cases same
      | cons first others =>
        rw [written] at same plain
        obtain rfl := (List.cons.inj same).1
        exact (plain '"' List.mem_cons_self).2.1 rfl
    rw [readString_of_quote single, readQuoted_append plain, Option.map_some,
      String.ofList_toList]

end ReadAs

theorem readValue_quote (steps depth : Nat) (behind : List Char) :
    readValue (steps + 1) depth ('"' :: behind) =
      (readString ('"' :: behind)).map fun read => (.text read.1, read.2) := by
  rw [readValue]

/-- A line that begins with a bare key gives the key a value. -/
theorem readStatement_of_key {characters inside after : List Char}
    {key : List String} {first : Char}
    (begins : skipSpace characters = first :: inside)
    (bare : isBare first = true)
    (named : readKey depthLimit (first :: inside) = some (key, '=' :: after)) :
    readStatement characters =
      (readValue (2 * after.length + 2) depthLimit (skipSpace after)).map
        fun read => (some (.pair key read.1), read.2) := by
  have bare_of {other : Char} {rest : List Char}
      (same : first :: inside = other :: rest) :
      isBare other = true := (List.cons.inj same).1 ▸ bare
  unfold readStatement
  rw [begins]
  split
  · next same => cases same
  · next same => exact absurd (bare_of same) (by decide)
  · next same => exact absurd (bare_of same) (by decide)
  · next same => exact absurd (bare_of same) (by decide)
  · next same => exact absurd (bare_of same) (by decide)
  · next same => exact absurd (bare_of same) (by decide)
  · rw [named]
    simp only [Option.bind_eq_bind, Option.bind_some]
    cases readValue (2 * after.length + 2) depthLimit (skipSpace after) with
    | none => rfl
    | some read => rfl

theorem readLines_succ {characters : List Char} (more : Nat)
    (nonempty : characters ≠ []) :
    readLines (more + 1) characters =
      (readStatement characters).bind fun read =>
        ((skipLine? read.2).bind (readLines more)).map
          (read.1.toList ++ ·) := by
  rw [readLines]
  · cases readStatement characters with
    | none => rfl
    | some read =>
      simp only [Option.bind_eq_bind, Option.bind_some]
      cases skipLine? read.2 with
      | none => rfl
      | some after =>
        simp only [Option.bind_some]
        cases readLines more after <;> rfl
  · exact nonempty

end Switchyard.Toml
