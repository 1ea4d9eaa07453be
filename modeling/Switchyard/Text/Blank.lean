/-!
# Blank text

A name, a message or a file counts as blank when nothing but white space is in
it. White space is the Unicode property of that name, which holds for
twenty-five characters, and not only for the ASCII ones.
-/

namespace Switchyard.Text

def isWhite (character : Char) : Bool :=
  let code := character.toNat
  (9 ≤ code && code ≤ 13) || code == 0x20 || code == 0x85 || code == 0xA0 ||
    code == 0x1680 ||
    (0x2000 ≤ code && code ≤ 0x200A) || code == 0x2028 || code == 0x2029 ||
    code == 0x202F || code == 0x205F || code == 0x3000

/-- The characters that are left when white space is taken off both ends. -/
def trimChars (characters : List Char) : List Char :=
  ((characters.dropWhile isWhite).reverse.dropWhile isWhite).reverse

def trim (text : String) : String :=
  String.ofList (trimChars text.toList)

def isBlank (text : String) : Bool :=
  text.toList.all isWhite

/-- The text with the letters A to Z replaced by a to z; no other character
changes. -/
def lowerAscii (text : String) : String :=
  String.ofList (text.toList.map Char.toLower)

/-- Letters and digits of ASCII are not white. -/
theorem isWhite_eq_false_of_isAlphanum {character : Char}
    (counted : character.isAlphanum = true) :
    isWhite character = false := by
  have bounds : (decide ('A'.val ≤ character.val ∧ character.val ≤ 'Z'.val) ||
      decide ('a'.val ≤ character.val) && decide (character.val ≤ 'z'.val) ||
      decide ('0'.val ≤ character.val) && decide (character.val ≤ '9'.val)) =
        true := counted
  simp only [Bool.or_eq_true, Bool.and_eq_true, decide_eq_true_eq,
    UInt32.le_iff_toNat_le] at bounds
  change ((65 ≤ character.toNat ∧ character.toNat ≤ 90) ∨
    (97 ≤ character.toNat ∧ character.toNat ≤ 122)) ∨
    (48 ≤ character.toNat ∧ character.toNat ≤ 57) at bounds
  simp only [isWhite, Bool.or_eq_false_iff, Bool.and_eq_false_iff,
    decide_eq_false_iff_not, beq_eq_false_iff_ne]
  omega

/-- Nothing is taken off where nothing is white. -/
theorem trimChars_eq_self {characters : List Char}
    (black : ∀ character ∈ characters, isWhite character = false) :
    trimChars characters = characters := by
  have kept (list : List Char)
      (among : ∀ character ∈ list, character ∈ characters) :
      list.dropWhile isWhite = list := by
    cases list with
    | nil => rfl
    | cons head tail => simp [black head (among head List.mem_cons_self)]
  rw [trimChars, kept characters fun _ member => member,
    kept characters.reverse fun _ => List.mem_reverse.1, List.reverse_reverse]

end Switchyard.Text
