import Switchyard.Proofs.Substituting

/-!
# References in a text

A text of settings is read once, from left to right: wherever a reference begins
it is one piece, and every other character is a piece of its own. The pieces do
not depend on the environment, so a value that is put in place of a reference is
never looked through for references. Of the references whose variables are not
set, the first one is the error. A text that breaks off within what may become a
reference can be read differently when more follows; any other text can be
replaced part by part.
-/

namespace Switchyard.Settings

/-- Whether a text begins with a reference to a variable, and goes on with the
rest. -/
def IsReference (text name rest : List Char) : Prop :=
  name ≠ [] ∧ '\x7d' ∉ name ∧ text = '$' :: '\x7b' :: (name ++ '\x7d' :: rest)

/-- Whether a text may become a reference when more follows: it is a dollar sign
alone, or a dollar sign and an opening brace before characters of which none is
a closing brace. -/
def isOpen : List Char → Bool
  | ['$'] => true
  | '$' :: '\x7b' :: name => !name.contains '\x7d'
  | _ => false

section Reference

variable {text name rest other behind : List Char}

/-- A name ends at the first closing brace. -/
theorem eq_of_append_closing (unclosed : '\x7d' ∉ name)
    (unclosed' : '\x7d' ∉ other)
    (same : name ++ '\x7d' :: rest = other ++ '\x7d' :: behind) :
    name = other ∧ rest = behind := by
  induction name generalizing other with
  | nil =>
    cases other with
    | nil => exact ⟨rfl, (List.cons.inj same).2⟩
    | cons first _ =>
      exact absurd ((List.cons.inj same).1 ▸ List.mem_cons_self) unclosed'
  | cons character name nameFact =>
    cases other with
    | nil => exact absurd ((List.cons.inj same).1 ▸ List.mem_cons_self) unclosed
    | cons first others =>
      obtain ⟨rfl, sameRest⟩ := List.cons.inj same
      rw [List.mem_cons, not_or] at unclosed unclosed'
      obtain ⟨rfl, rfl⟩ := nameFact unclosed.2 unclosed'.2 sameRest
      exact ⟨rfl, rfl⟩

theorem IsReference.unique (reference : IsReference text name rest)
    (again : IsReference text other behind) : name = other ∧ rest = behind := by
  obtain ⟨-, unclosed, rfl⟩ := reference
  obtain ⟨-, unclosed', same⟩ := again
  exact eq_of_append_closing unclosed unclosed'
    (List.cons.inj (List.cons.inj same).2).2

theorem IsReference.append (reference : IsReference text name rest)
    (behind : List Char) :
    IsReference (text ++ behind) name (rest ++ behind) := by
  obtain ⟨named, unclosed, rfl⟩ := reference
  exact ⟨named, unclosed, by simp⟩

theorem IsReference.suffix (reference : IsReference text name rest) :
    rest <:+ text := by
  obtain ⟨-, -, rfl⟩ := reference
  exact ⟨'$' :: '\x7b' :: (name ++ ['\x7d']), by simp⟩

theorem IsReference.length_lt (reference : IsReference text name rest) :
    rest.length < text.length := by
  obtain ⟨-, -, rfl⟩ := reference
  simp only [List.length_cons, List.length_append]
  omega

/-- A reference ends within the text in which it begins, unless that text is
open. -/
theorem IsReference.of_append {character : Char}
    (closed : isOpen (character :: text) = false)
    (reference : IsReference (character :: text ++ behind) name rest) :
    ∃ within, IsReference (character :: text) name within := by
  obtain ⟨named, unclosed, same⟩ := reference
  obtain ⟨rfl, sameText⟩ := List.cons.inj same
  cases text with
  | nil => cases closed
  | cons second inside =>
    obtain ⟨rfl, sameInside⟩ := List.cons.inj sameText
    -- The first closing brace in the text itself ends the name before what
    -- follows is reached.
    have closes : '\x7d' ∈ inside := by simpa [isOpen] using closed
    obtain ⟨found, within, rfl, unclosed'⟩ := List.eq_append_cons_of_mem closes
    have sameName : found ++ '\x7d' :: (within ++ behind) =
        name ++ '\x7d' :: rest :=
      (List.append_assoc found _ behind).symm.trans sameInside
    obtain ⟨rfl, -⟩ := eq_of_append_closing unclosed' unclosed sameName
    exact ⟨within, named, unclosed, rfl⟩

theorem isReference_of_splitReference?
    (found : splitReference? text = some (name, rest)) :
    IsReference ('$' :: '\x7b' :: text) name rest := by
  have whole := List.takeWhile_append_dropWhile (p := (· != '\x7d')) (l := text)
  have closing := List.head?_dropWhile_not (· != '\x7d') text
  unfold splitReference? at found
  cases behind : text.dropWhile (· != '\x7d') with
  | nil => simp [behind] at found
  | cons first after =>
    simp only [behind, List.head?_cons, bne_eq_false_iff_eq] at closing
    subst closing
    simp only [behind] at found
    split at found
    · cases found
    · next named =>
      cases found
      refine ⟨by simpa using named, fun member => ?_, by rw [← behind, whole]⟩
      have apart := List.all_eq_true.1 List.all_takeWhile _ member
      simp at apart

end Reference

/-- A piece of a text: a character that is copied, or a reference to a
variable. -/
inductive Piece where
  | copied (character : Char)
  | reference (name : List Char)

namespace Piece

/-- A piece as it stands in the text. -/
def written : Piece → List Char
  | copied character => [character]
  | reference name => '$' :: '\x7b' :: (name ++ ['\x7d'])

/-- The name of the variable that a piece refers to. -/
def name? : Piece → Option (List Char)
  | copied _ => none
  | reference name => some name

/-- What stands in place of a piece when every variable is set. -/
def inserted (environment : Environment) : Piece → List Char
  | copied character => [character]
  | reference name => ((valueOf? environment name).getD "").toList

/-- Of the names in references, the first one that no variable has. -/
def firstUnset? (environment : Environment) (pieces : List Piece) :
    Option (List Char) :=
  (pieces.filterMap name?).find? fun name => (valueOf? environment name).isNone

variable (environment : Environment) (pieces : List Piece)

theorem firstUnset?_copied (character : Char) :
    firstUnset? environment (copied character :: pieces) =
      firstUnset? environment pieces := rfl

theorem firstUnset?_reference (name : List Char) :
    firstUnset? environment (reference name :: pieces) =
      match valueOf? environment name with
      | none => some name
      | some _ => firstUnset? environment pieces := by
  have names : (reference name :: pieces).filterMap name? =
    name :: pieces.filterMap name? := rfl
  rw [firstUnset?, names, List.find?_cons]
  cases valueOf? environment name <;> rfl

theorem firstUnset?_append (others : List Piece) :
    firstUnset? environment (pieces ++ others) =
      (firstUnset? environment pieces).or (firstUnset? environment others) := by
  rw [firstUnset?, List.filterMap_append, List.find?_append]
  rfl

end Piece

/-- The pieces of a text from left to right. A character is copied only where no
reference begins. -/
inductive Scans : List Char → List Piece → Prop where
  | nil : Scans [] []
  | reference {text name rest : List Char} {pieces : List Piece}
      (begins : IsReference text name rest) (onward : Scans rest pieces) :
      Scans text (.reference name :: pieces)
  | copied {character : Char} {rest : List Char} {pieces : List Piece}
      (plain : ∀ name behind, ¬ IsReference (character :: rest) name behind)
      (onward : Scans rest pieces) :
        Scans (character :: rest) (.copied character :: pieces)

theorem exists_scans : ∀ text, ∃ pieces, Scans text pieces
  | [] => ⟨[], .nil⟩
  | character :: rest => by
    rcases Classical.em
        (∃ name behind, IsReference (character :: rest) name behind) with
      ⟨name, behind, begins⟩ | plain
    · obtain ⟨pieces, onward⟩ := exists_scans behind
      exact ⟨.reference name :: pieces, .reference begins onward⟩
    · obtain ⟨pieces, onward⟩ := exists_scans rest
      exact ⟨.copied character :: pieces,
        .copied (fun name behind begins => plain ⟨name, behind, begins⟩) onward⟩
termination_by text => text.length
decreasing_by
  · exact begins.length_lt
  · exact Nat.lt_succ_self rest.length

namespace Scans

variable {text behind : List Char} {pieces others : List Piece}

theorem unique (scans : Scans text pieces) (again : Scans text others) :
    others = pieces := by
  induction scans generalizing others with
  | nil =>
    cases again with
    | nil => rfl
    | reference begins => exact absurd begins.2.2.symm (List.cons_ne_nil _ _)
  | reference begins _ onwardFact =>
    cases again with
    | nil => exact absurd begins.2.2.symm (List.cons_ne_nil _ _)
    | reference begins' onward' =>
      obtain ⟨rfl, rfl⟩ := begins.unique begins'
      rw [onwardFact onward']
    | copied plain => exact absurd begins (plain _ _)
  | copied plain _ onwardFact =>
    cases again with
    | reference begins => exact absurd begins (plain _ _)
    | copied _ onward' => rw [onwardFact onward']

/-- The pieces of a text make up the text. -/
theorem flatMap_written (scans : Scans text pieces) :
    pieces.flatMap Piece.written = text := by
  induction scans with
  | nil => rfl
  | reference begins _ onwardFact =>
    rw [List.flatMap_cons, onwardFact, begins.2.2]
    simp [Piece.written]
  | copied _ _ onwardFact =>
    rw [List.flatMap_cons, onwardFact]
    rfl

/-- What is read of a text stays the same when more follows, unless the text
ends in something open. -/
theorem append (scans : Scans text pieces)
    (closed : ∀ rear, rear <:+ text → isOpen rear = false)
    (onward : Scans behind others) :
    Scans (text ++ behind) (pieces ++ others) := by
  induction scans with
  | nil => exact onward
  | reference begins _ onwardFact =>
    refine .reference (begins.append behind) (onwardFact ?_)
    exact fun rear suffix => closed rear (suffix.trans begins.suffix)
  | copied plain _ onwardFact =>
    refine .copied ?_ (onwardFact ?_)
    · -- What follows can only complete a reference in a text that is open.
      intro name rest begins
      obtain ⟨within, inside⟩ :=
        begins.of_append (closed _ (List.suffix_refl _))
      exact plain name within inside
    · exact fun rear suffix => closed rear (suffix.trans (List.suffix_cons _ _))

end Scans

section Expand

variable {environment : Environment}

theorem expand_nil : expand environment [] = .ok [] := by
  rw [expand]

theorem expand_reference_alone {name : List Char} (named : name ≠ [])
    (unclosed : '\x7d' ∉ name) {value : String}
    (known : valueOf? environment name = some value) :
    expand environment ('$' :: '\x7b' :: (name ++ ['\x7d'])) =
      .ok value.toList := by
  rw [expand_reference named unclosed known, expand_nil]
  exact congrArg Except.ok (List.append_nil _)

theorem expand_cons_of_plain {character : Char} {rest : List Char}
    (plain : ∀ name behind, ¬ IsReference (character :: rest) name behind) :
    expand environment (character :: rest) =
      (expand environment rest).map (character :: ·) := by
  rw [expand.eq_def]
  split
  · next same => cases same
  · next inside same =>
    obtain ⟨rfl, rfl⟩ := List.cons.inj same
    split
    · next name behind found =>
        exact absurd (isReference_of_splitReference? found) (plain _ _)
    · rfl
  · next same =>
    cases same
    rfl

/-- A text is replaced piece by piece, unless some variable is not set. -/
theorem Scans.expand_eq {text : List Char} {pieces : List Piece}
    (scans : Scans text pieces) :
    expand environment text =
      match Piece.firstUnset? environment pieces with
      | some name => .error (.missingVariable (String.ofList name))
      | none => .ok (pieces.flatMap (Piece.inserted environment)) := by
  induction scans with
  | nil => exact expand_nil
  | @reference _ name _ pieces begins _ onwardFact =>
    obtain ⟨named, unclosed, rfl⟩ := begins
    rw [expand_at_reference named unclosed, onwardFact,
      Piece.firstUnset?_reference, List.flatMap_cons, Piece.inserted]
    cases valueOf? environment name with
    | none => rfl
    | some value => cases Piece.firstUnset? environment pieces <;> rfl
  | @copied character _ pieces plain _ onwardFact =>
    rw [expand_cons_of_plain plain, onwardFact, Piece.firstUnset?_copied]
    cases Piece.firstUnset? environment pieces <;> rfl

/-- A text that is not open at its end is replaced first, and then what follows
it. -/
theorem expand_append {text : List Char}
    (closed : ∀ rear, rear <:+ text → isOpen rear = false)
    (behind : List Char) :
    expand environment (text ++ behind) = do
      let first ← expand environment text
      let second ← expand environment behind
      return first ++ second := by
  obtain ⟨pieces, scans⟩ := exists_scans text
  obtain ⟨others, onward⟩ := exists_scans behind
  rw [(scans.append closed onward).expand_eq, scans.expand_eq, onward.expand_eq,
    Piece.firstUnset?_append, List.flatMap_append]
  cases Piece.firstUnset? environment pieces with
  | some name => rfl
  | none => cases Piece.firstUnset? environment others <;> rfl

/-- A text has exactly one reading from left to right. Nothing of the text is
lost in it, and values have no part in it. Replacing the references fails
exactly if one of them names a variable that is not set, and the error is the
first such name; otherwise every reference gives way to the value of its
variable and all else is copied. Of two texts one behind the other each is
replaced by itself, unless the first one ends in something open. -/
theorem expand_reads_once (environment : Environment) (text : List Char) :
    (∃ pieces, Scans text pieces ∧
      (∀ others, Scans text others → others = pieces) ∧
      pieces.flatMap Piece.written = text ∧
      (∀ error, expand environment text = .error error ↔
        ∃ name, Piece.firstUnset? environment pieces = some name ∧
          error = .missingVariable (String.ofList name)) ∧
      ∀ expanded, expand environment text = .ok expanded ↔
        Piece.firstUnset? environment pieces = none ∧
          expanded = pieces.flatMap (Piece.inserted environment)) ∧
    ((∀ rear, rear <:+ text → isOpen rear = false) →
      ∀ behind, expand environment (text ++ behind) = do
        let first ← expand environment text
        let second ← expand environment behind
        return first ++ second) := by
  obtain ⟨pieces, scans⟩ := exists_scans text
  refine ⟨⟨pieces, scans, fun _ again => scans.unique again,
      scans.flatMap_written, ?_, ?_⟩,
    expand_append⟩
  · intro error
    rw [scans.expand_eq]
    cases Piece.firstUnset? environment pieces <;> simp [eq_comm]
  · intro expanded
    rw [scans.expand_eq]
    cases Piece.firstUnset? environment pieces <;> simp [eq_comm]

/-- An environment in which the value of one variable looks like a reference to
the other. -/
def nested : Environment := NameMap.ofList [("A", "$\x7bB\x7d"), ("B", "b")]

/-- A value that looks like a reference stays as it is, and a dollar sign before
a reference is copied. -/
theorem expand_reads_once_of_nested :
    let text := ['$', '$', '\x7b', 'A', '\x7d']
    (∀ rear, rear <:+ text → isOpen rear = false) ∧
      expand nested text = .ok "$$\x7bB\x7d".toList ∧
      expand nested (text ++ ['$', '\x7b', 'B', '\x7d']) =
        .ok "$$\x7bB\x7db".toList := by
  intro text
  have closed : ∀ rear, rear <:+ text → isOpen rear = false := by
    intro rear suffix
    simp only [text, List.suffix_cons_iff, List.suffix_nil] at suffix
    rcases suffix with rfl | rfl | rfl | rfl | rfl | rfl <;> rfl
  have plain : ∀ name behind, ¬ IsReference text name behind := by
    rintro name behind ⟨-, -, same⟩
    exact absurd (List.cons.inj (List.cons.inj same).2).1 (by decide)
  have first : valueOf? nested ['A'] = some "$\x7bB\x7d" := rfl
  have second : valueOf? nested ['B'] = some "b" := rfl
  have former : expand nested text = .ok "$$\x7bB\x7d".toList := by
    have reference :=
      expand_reference_alone (List.cons_ne_nil _ _) (by decide) first
    rw [expand_cons_of_plain plain]
    exact congrArg (Except.map _) reference
  have latter : expand nested ['$', '\x7b', 'B', '\x7d'] = .ok "b".toList :=
    expand_reference_alone (List.cons_ne_nil _ _) (by decide) second
  refine ⟨closed, former, ?_⟩
  rw [(expand_reads_once nested text).2 closed, former, latter]
  rfl

end Expand

end Switchyard.Settings
