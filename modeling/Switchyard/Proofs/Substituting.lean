import Switchyard.Proofs.Keeping
import Switchyard.Proofs.Quoting
import Switchyard.Settings.Loading

/-!
# Values in place of references

References to variables are replaced in the text of the settings before the text
is read, so the value of a variable is read as TOML too. Between quotes it is
read as itself if each of its characters stands for itself there. Any other
value ends the string early, is read as another value, or does not fit into a
string at all; then the settings cannot be loaded or something else is in them.
-/

namespace Switchyard

namespace Toml

/-- The beginning of a text that gives a secret, up to the quote before it. -/
def secretStart : List Char := "[engine]\nsecret = \"".toList

theorem readStatement_secret (behind : List Char) :
    readStatement ("secret = \"".toList ++ behind) =
      (readString ('"' :: behind)).map fun read =>
        (some (.pair ["secret"] (.text read.1)), read.2) := by
  have skipped : skipSpace ("secret = \"".toList ++ behind) =
      's' :: ("ecret = \"".toList ++ behind) := rfl
  have key : readKey depthLimit ('s' :: ("ecret = \"".toList ++ behind)) =
      some (["secret"], '=' :: ' ' :: '"' :: behind) := rfl
  have blank : skipSpace (' ' :: '"' :: behind) = '"' :: behind := rfl
  rw [readStatement_of_key skipped (by decide) key, blank, readValue_quote,
    Option.map_map]
  rfl

theorem readLines_secret (more : Nat) (behind : List Char) :
    readLines (more + 2) (secretStart ++ behind) =
      (readString ('"' :: behind)).bind fun read =>
        ((skipLine? read.2).bind (readLines more)).map fun later =>
          [.table ["engine"], .pair ["secret"] (.text read.1)] ++ later := by
  have header : readStatement (secretStart ++ behind) =
      some (some (.table ["engine"]), "\nsecret = \"".toList ++ behind) := rfl
  have ended : skipLine? ("\nsecret = \"".toList ++ behind) =
      some ("secret = \"".toList ++ behind) := rfl
  have first : secretStart ++ behind ≠ [] := List.cons_ne_nil _ _
  have second : "secret = \"".toList ++ behind ≠ [] := List.cons_ne_nil _ _
  rw [readLines_succ _ first, header, Option.bind_some, ended, Option.bind_some,
    readLines_succ _ second, readStatement_secret]
  cases readString ('"' :: behind) with
  | none => rfl
  | some read =>
    simp only [Option.map_some, Option.bind_some, Option.map_map]
    rfl

/-- The document that gives a secret and whatever else follows. -/
theorem parse?_secret (behind : List Char) :
    parse? (String.ofList (secretStart ++ behind)) =
      ((readString ('"' :: behind)).bind fun read =>
        ((skipLine? read.2).bind (readLines (behind.length + 17))).map
          fun later =>
            [.table ["engine"], .pair ["secret"] (.text read.1)] ++ later).bind
        documentOf? := by
  have parsed : parse? (String.ofList (secretStart ++ behind)) =
      (readLines (behind.length + 17 + 2) (secretStart ++ behind)).bind
        documentOf? := by
    rw [parse?, String.toList_ofList]
    rfl
  rw [parsed, readLines_secret]

end Toml

namespace Json

theorem lookup_filter_of_mem {names : List String} {name : String}
    (known : name ∈ names) (members : List (String × Json)) :
    (members.filter fun member => names.contains member.1).lookup name =
      members.lookup name := by
  induction members with
  | nil => rfl
  | cons member members membersFact =>
    obtain ⟨other, value⟩ := member
    by_cases same : name = other
    · subst same
      simp [known]
    · rw [List.filter_cons, List.lookup_cons, beq_eq_false_iff_ne.2 same]
      by_cases listed : names.contains other = true
      · rw [if_pos listed, List.lookup_cons,
          beq_eq_false_iff_ne.2 same, membersFact]
      · rw [if_neg listed, membersFact]

theorem lookup_of_fields? {names : List String} {members : List (String × Json)}
    {fields : Fields} (written : (object members).fields? names = some fields)
    {name : String} (known : name ∈ names) :
    fields.given.lookup name = members.lookup name := by
  simp only [Json.fields?] at written
  split at written
  · obtain rfl := Option.some.inj written
    exact lookup_filter_of_mem known members
  · cases written

end Json

namespace Settings

section References

variable {environment : Environment} {behind : List Char}

theorem expand_cons_of_ne {character : Char} (apart : character ≠ '$') :
    expand environment (character :: behind) =
      (expand environment behind).map (character :: ·) := by
  rw [expand]
  intro _ same
  exact absurd same apart

theorem expand_append_of_not_mem {front : List Char} (apart : '$' ∉ front) :
    expand environment (front ++ behind) =
      (expand environment behind).map (front ++ ·) := by
  induction front with
  | nil =>
    rw [List.nil_append]
    cases expand environment behind <;> rfl
  | cons character front frontFact =>
    rw [List.mem_cons, not_or] at apart
    rw [List.cons_append, expand_cons_of_ne (Ne.symm apart.1),
      frontFact apart.2]
    cases expand environment behind <;> rfl

theorem splitReference?_append {name : List Char} (named : name ≠ [])
    (unclosed : '\x7d' ∉ name) :
    splitReference? (name ++ '\x7d' :: behind) = some (name, behind) := by
  have plain : ∀ character ∈ name, (character != '\x7d') = true := by
    intro character member
    rw [bne_iff_ne]
    rintro rfl
    exact unclosed member
  have front : (name ++ '\x7d' :: behind).takeWhile (· != '\x7d') = name := by
    rw [List.takeWhile_append_of_pos plain]
    simp
  have back : (name ++ '\x7d' :: behind).dropWhile (· != '\x7d') =
      '\x7d' :: behind := by
    rw [List.dropWhile_append_of_pos plain]
    simp
  have nonempty : name.isEmpty = false := by simpa using named
  simp only [splitReference?, front, back, nonempty]
  rfl

/-- A reference is replaced by the value of its variable, and there has to be
one. -/
theorem expand_at_reference {name : List Char} (named : name ≠ [])
    (unclosed : '\x7d' ∉ name) :
    expand environment ('$' :: '\x7b' :: (name ++ '\x7d' :: behind)) =
      match valueOf? environment name with
      | none => .error (.missingVariable (String.ofList name))
      | some value => (expand environment behind).map (value.toList ++ ·) := by
  have found : splitReference? (name ++ '\x7d' :: behind) =
      some (name, behind) :=
    splitReference?_append named unclosed
  rw [expand]
  split
  · next other rest same =>
    obtain ⟨rfl, rfl⟩ := Prod.mk.inj (Option.some.inj (found.symm.trans same))
    rfl
  · next none =>
    rw [found] at none
    cases none

theorem expand_reference {name : List Char} (named : name ≠ [])
    (unclosed : '\x7d' ∉ name) {value : String}
    (known : valueOf? environment name = some value) :
    expand environment ('$' :: '\x7b' :: (name ++ '\x7d' :: behind)) =
      (expand environment behind).map (value.toList ++ ·) := by
  rw [expand_at_reference named unclosed, known]

end References

theorem secret_of_ofJson? {document : Json} {settings : Settings}
    {text : String} (read : ofJson? document = some settings)
    (given : Toml.memberAt? ["engine", "secret"] document = some (.text text)) :
    settings.access.secret = some text := by
  obtain ⟨members, engine, rfl, there, inside⟩ :=
    Toml.memberAt?_cons_eq_some_iff.1 given
  obtain ⟨entries, _, rfl, secret, ⟨⟩⟩ :=
    Toml.memberAt?_cons_eq_some_iff.1 inside
  simp only [ofJson?, Option.bind_eq_bind, Option.bind_eq_some_iff,
    Option.some.injEq] at read
  obtain ⟨fields, written, access, accessRead, _, _, _, _, _, _, _, _, _,
    _, rfl⟩ := read
  rw [Json.Fields.orElse, Json.lookup_of_fields? written (by decide), there]
    at accessRead
  simp only [Access.ofJson?, Option.bind_eq_bind, Option.bind_eq_some_iff,
    Option.some.injEq] at accessRead
  obtain ⟨fields', written', _, _, found, secretRead, _, _, _, _, _, _, rfl⟩ :=
    accessRead
  rw [Json.Fields.optional, Json.Fields.orElse,
    Json.lookup_of_fields? written' (by decide), secret] at secretRead
  exact (Option.some.inj secretRead).symm

theorem ofJson?_secret (text : String) :
    ofJson? (.object [("engine", .object [("secret", .text text)])]) =
      some { usual with access := { Access.usual with secret := some text } } :=
  rfl

/-- A text that refers to a variable between quotes, for the secret of the
controller. -/
def secretFrom (name : String) : String :=
  "[engine]\nsecret = \"$\x7b" ++ name ++ "\x7d\""

theorem expand_secretFrom {environment : Environment} {name value : String}
    (named : name ≠ "") (unclosed : '\x7d' ∉ name.toList)
    (known : valueOf? environment name.toList = some value) :
    expand environment (secretFrom name).toList =
      .ok (Toml.secretStart ++ (value.toList ++ ['"'])) := by
  have written : (secretFrom name).toList =
      Toml.secretStart ++ '$' :: '\x7b' ::
        (name.toList ++ '\x7d' :: ['"']) := by
    have text : secretFrom name = "[engine]\nsecret = \"$\x7b" ++ name ++
      "\x7d\"" := rfl
    have start : Toml.secretStart = "[engine]\nsecret = \"".toList := rfl
    simp [text, start]
  have nonempty : name.toList ≠ [] := by simpa using named
  have quote : expand environment ['"'] = .ok ['"'] := by
    rw [expand_cons_of_ne (by decide), expand, Except.map]
  rw [written, expand_append_of_not_mem (by decide),
    expand_reference nonempty unclosed known, quote, Except.map, Except.map]

/-- The settings that are read where the secret is written as some value. -/
def readSecret? (value : String) : Option Settings :=
  (Toml.parse? (String.ofList
    (Toml.secretStart ++ (value.toList ++ ['"'])))).bind ofJson?

theorem ofText_secretFrom {environment : Environment} {name value : String}
    (named : name ≠ "") (unclosed : '\x7d' ∉ name.toList)
    (known : valueOf? environment name.toList = some value) :
    ofText environment (secretFrom name) =
      match readSecret? value with
      | some settings => .ok settings
      | none => .error (.notToml "unexpected text or value") := by
  rw [ofText, expand_secretFrom named unclosed known]
  rfl

/-- Settings that say nothing but what the secret is. -/
def withSecret (secret : String) : Settings :=
  { usual with access := { Access.usual with secret := some secret } }

/-- Where the secret that is read is the value, each of its characters stands
for itself. -/
theorem standsForItself_of_readSecret? {value : String} {settings : Settings}
    (loaded : readSecret? value = some settings)
    (secret : settings.access.secret = some value) :
    ∀ character ∈ value.toList, Toml.StandsForItself character := by
  obtain ⟨document, parsed, read⟩ := Option.bind_eq_some_iff.1 loaded
  rw [Toml.parse?_secret] at parsed
  obtain ⟨statements, lines, made⟩ := Option.bind_eq_some_iff.1 parsed
  obtain ⟨⟨text, rest⟩, quoted, others⟩ := Option.bind_eq_some_iff.1 lines
  obtain ⟨later, -, rfl⟩ := Option.map_eq_some_iff.1 others
  have given : Toml.memberAt? ["engine", "secret"] document =
      some (.text text) :=
    Toml.memberAt?_of_documentOf? made rfl rfl
  obtain rfl : text = value :=
    Option.some.inj ((secret_of_ofJson? read given).symm.trans secret)
  exact (Toml.readString_eq_self_iff.1 quoted).2

theorem readSecret?_of_standsForItself {value : String}
    (plain : ∀ character ∈ value.toList, Toml.StandsForItself character) :
    readSecret? value = some (withSecret value) := by
  rw [readSecret?, Toml.parse?_secret,
    Toml.readString_eq_self_iff.2 ⟨rfl, plain⟩]
  exact ofJson?_secret value

/-- A secret that is taken from a variable is the value of that variable, and
nothing else changes, exactly if no character of the value is a quote, a
backslash or one of U+0000 to U+0008, U+000A to U+001F and U+007F. The value is
never the secret of settings that differ from the usual ones in something
else. -/
theorem secretFrom_loads_value {environment : Environment} {name value : String}
    (named : name ≠ "") (unclosed : '\x7d' ∉ name.toList)
    (known : valueOf? environment name.toList = some value) :
    (ofText environment (secretFrom name) = .ok (withSecret value) ↔
      ∀ character ∈ value.toList, Toml.StandsForItself character) ∧
      ∀ settings, ofText environment (secretFrom name) = .ok settings →
        settings.access.secret = some value → settings = withSecret value := by
  have loads {settings : Settings} :
      ofText environment (secretFrom name) = .ok settings ↔
      readSecret? value = some settings := by
    rw [ofText_secretFrom named unclosed known]
    cases readSecret? value with
    | none => simp
    | some loaded => simp
  simp only [loads]
  refine ⟨⟨fun read => standsForItself_of_readSecret? read rfl,
    readSecret?_of_standsForItself⟩, ?_⟩
  intro settings read secret
  have plain := standsForItself_of_readSecret? read secret
  exact Option.some.inj (read.symm.trans (readSecret?_of_standsForItself plain))

def variableV (value : String) : Environment := NameMap.ofList [("V", value)]

theorem valueOf?_variableV (value : String) :
    valueOf? (variableV value) "V".toList = some value := rfl

/-- A word with a digit and a blank is loaded as it is. -/
theorem secretFrom_loads_word :
    let environment := variableV "s3cret word"
    "V" ≠ "" ∧ '\x7d' ∉ "V".toList ∧
      valueOf? environment "V".toList = some "s3cret word" ∧
      ofText environment (secretFrom "V") = .ok (withSecret "s3cret word") := by
  intro environment
  have named : "V" ≠ "" := by decide
  have unclosed : '\x7d' ∉ "V".toList := by decide
  have known := valueOf?_variableV "s3cret word"
  have each : ("s3cret word".toList.all fun character =>
      decide (Toml.StandsForItself character)) = true := by decide
  have plain : ∀ character ∈ "s3cret word".toList,
      Toml.StandsForItself character :=
    fun character member =>
      of_decide_eq_true (List.all_eq_true.1 each character member)
  exact ⟨named, unclosed, known,
    (secretFrom_loads_value named unclosed known).1.2 plain⟩

/-- A quote in the value ends the secret. What follows it is no longer TOML, or
sets something else. -/
theorem secretFrom_breaks_at_quote :
    ofText (variableV "a\"b") (secretFrom "V") =
      .error (.notToml "unexpected text or value") ∧
      ofText (variableV "x\"\n[daemon]\npid_file = \"/tmp/p") (secretFrom "V") =
        .ok { withSecret "x" with pidFile := "/tmp/p" } := by
  have named : "V" ≠ "" := by decide
  have unclosed : '\x7d' ∉ "V".toList := by decide
  have broken : readSecret? "a\"b" = none := by decide +kernel
  have crafted : readSecret? "x\"\n[daemon]\npid_file = \"/tmp/p" =
      some { withSecret "x" with pidFile := "/tmp/p" } := by decide +kernel
  rw [ofText_secretFrom named unclosed (valueOf?_variableV _), broken,
    ofText_secretFrom named unclosed (valueOf?_variableV _), crafted]
  exact ⟨rfl, rfl⟩

end Settings
end Switchyard
