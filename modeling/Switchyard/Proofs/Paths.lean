import Mathlib.Data.String.Basic
import Switchyard.Files.Path

/-!
# Names in folders

The path of a plain name in a folder leads to that name in the place of the
folder, whatever way the path of the folder is written: with points, with
doubled slashes, with a slash at its end or without anything. The folder of such
a path leads to the same place as the path it was made from.
-/

namespace Switchyard.Files

section Splitting

open String

/-- Where the library's loop stands when it has passed `middle` since the last
slash. -/
theorem splitOnAux_slash (left middle right : List Char) (found : List String) :
    splitOnAux (ofList (left ++ middle ++ right)) "/" ⟨utf8Len left⟩
        ⟨utf8Len left + utf8Len middle⟩ 0 found =
      found.reverse ++
        (List.splitOnPPrepend (· == '/') right middle.reverse).map ofList := by
  induction right generalizing left middle found with
  | nil =>
    have ends : Pos.Raw.atEnd (ofList (left ++ middle ++ []))
        ⟨utf8Len left + utf8Len middle⟩ = true := by
      simp [-ofList_append, atEnd_iff, rawEndPos_ofList]
    rw [splitOnAux, if_pos ends]
    simpa using extract_of_valid left middle []
  | cons next right rightFact =>
    have goesOn : ¬ Pos.Raw.atEnd (ofList (left ++ middle ++ next :: right))
        ⟨utf8Len left + utf8Len middle⟩ = true := by
      have wide := Char.utf8Size_pos next
      simp only [atEnd_iff, rawEndPos_ofList, utf8Len_append, utf8Len_cons,
        Pos.Raw.mk_le_mk]
      omega
    have here : Pos.Raw.get (ofList (left ++ middle ++ next :: right))
        ⟨utf8Len left + utf8Len middle⟩ = next := by
      simpa [-ofList_append] using get_of_valid (left ++ middle) (next :: right)
    have further : Pos.Raw.next (ofList (left ++ middle ++ next :: right))
        ⟨utf8Len left + utf8Len middle⟩ =
          ⟨utf8Len left + utf8Len middle + next.utf8Size⟩ := by
      simpa [-ofList_append] using next_of_valid (left ++ middle) next right
    have slash : Pos.Raw.get "/" 0 = '/' := by decide
    have one : Pos.Raw.next "/" 0 = ⟨1⟩ := by decide
    have behind : Pos.Raw.atEnd "/" ⟨1⟩ = true := by decide
    rw [splitOnAux, if_neg goesOn, here, further, slash, one]
    by_cases same : next = '/'
    · subst same
      have part : Pos.Raw.extract (ofList (left ++ middle ++ '/' :: right))
          ⟨utf8Len left⟩ (Pos.Raw.unoffsetBy
              ⟨utf8Len left + utf8Len middle + Char.utf8Size '/'⟩ ⟨1⟩) =
            ofList middle :=
        extract_of_valid left middle ('/' :: right)
      have onward :=
        rightFact (left ++ middle ++ ['/']) [] (ofList middle :: found)
      simp only [beq_self_eq_true, if_true, behind, part]
      simpa [-ofList_append, List.splitOnPPrepend_cons_eq_if, Nat.add_assoc]
        using onward
    · have back : Pos.Raw.unoffsetBy ⟨utf8Len left + utf8Len middle⟩ 0 =
          ⟨utf8Len left + utf8Len middle⟩ := rfl
      have onward := rightFact left (middle ++ [next]) found
      simp only [beq_eq_false_iff_ne.2 same, Bool.false_eq_true, if_false,
        back, further]
      simpa [-ofList_append, same, List.splitOnPPrepend_cons_eq_if,
        Nat.add_assoc] using onward

theorem splitOn_slash (text : String) :
    text.splitOn "/" = (text.toList.splitOn '/').map ofList := by
  have whole := splitOnAux_slash [] [] text.toList []
  rw [String.splitOn, List.splitOn_eq_splitOnP]
  simpa using whole

end Splitting

/-- Whether a part between slashes is a name or leads to the folder above. -/
def countsAsPart (part : String) : Bool := part != "" && part != "."

theorem pathParts_eq (path : String) :
    pathParts path = ((path.toList.splitOn '/').map String.ofList).filter
      countsAsPart := by
  rw [pathParts, splitOn_slash]
  rfl

@[simp]
theorem pathParts_empty : pathParts "" = [] := by
  rw [pathParts_eq]
  rfl

theorem pathParts_append_slash (front back : String) :
    pathParts (front ++ "/" ++ back) = pathParts front ++ pathParts back := by
  have written : (front ++ "/" ++ back).toList =
      front.toList ++ '/' :: back.toList := by
    rw [String.toList_append, String.toList_append, List.append_assoc]
    rfl
  simp only [pathParts_eq, written, List.splitOn_append_cons_self,
    List.map_append, List.filter_append]

theorem not_mem_of_mem_splitOn {separator : Char} {characters part : List Char}
    (member : part ∈ characters.splitOn separator) : separator ∉ part := by
  induction characters generalizing part with
  | nil =>
    obtain rfl := List.mem_singleton.1 member
    exact List.not_mem_nil
  | cons first others othersFact =>
    rw [List.splitOn_cons_eq_if_modifyHead] at member
    by_cases same : first = separator
    · rw [if_pos (beq_iff_eq.2 same)] at member
      rcases List.mem_cons.1 member with rfl | among
      · exact List.not_mem_nil
      · exact othersFact among
    · rw [if_neg (mt beq_iff_eq.1 same)] at member
      cases split : others.splitOn separator with
      | nil => exact absurd split (List.splitOn_ne_nil _ _)
      | cons next later =>
        rw [split, List.modifyHead_cons] at member
        rcases List.mem_cons.1 member with rfl | among
        · intro inside
          rcases List.mem_cons.1 inside with equal | further
          · exact same equal.symm
          · exact othersFact (split ▸ List.mem_cons_self) further
        · exact othersFact (split ▸ List.mem_cons_of_mem _ among)

theorem mem_pathParts {path part : String} (member : part ∈ pathParts path) :
    '/' ∉ part.toList ∧ countsAsPart part = true := by
  rw [pathParts_eq, List.mem_filter, List.mem_map] at member
  obtain ⟨⟨characters, among, rfl⟩, counts⟩ := member
  rw [String.toList_ofList]
  exact ⟨not_mem_of_mem_splitOn among, counts⟩

/-- Parts that are written with slashes between them are the parts of what is
written. -/
theorem pathParts_intercalate {parts : List String}
    (plain : ∀ part ∈ parts, '/' ∉ part.toList ∧ countsAsPart part = true) :
    pathParts ("/".intercalate parts) = parts := by
  by_cases none : parts = []
  · subst none
    exact pathParts_empty
  · have apart : ∀ part ∈ parts.map String.toList, '/' ∉ part := by
      intro part member
      obtain ⟨name, among, rfl⟩ := List.mem_map.1 member
      exact (plain name among).1
    have split :=
      List.splitOn_intercalate '/' apart (mt List.map_eq_nil_iff.1 none)
    have back : (parts.map String.toList).map String.ofList = parts := by
      simp
    have slash : "/".toList = ['/'] := rfl
    rw [pathParts_eq, String.toList_intercalate, slash, split, back]
    exact List.filter_eq_self.2 fun part among => (plain part among).2

/-- Whether a text is the name of something in a folder. -/
structure IsPlain (name : String) : Prop where
  apart : '/' ∉ name.toList
  counts : countsAsPart name = true
  below : name ≠ ".."

section Joining

variable {name : String}

theorem IsPlain.pathParts_eq (plain : IsPlain name) :
    pathParts name = [name] := by
  have counted : ∀ part ∈ [name],
      '/' ∉ part.toList ∧ countsAsPart part = true := by
    intro part member
    obtain rfl := List.mem_singleton.1 member
    exact ⟨plain.apart, plain.counts⟩
  have written : "/".intercalate [name] = name := by simp
  simpa only [written] using pathParts_intercalate counted

theorem startsWith_slash_iff {text : String} :
    text.startsWith "/" = true ↔ text.toList.head? = some '/' := by
  rw [String.startsWith_string_iff]
  cases text.toList with
  | nil => simp
  | cons first others => simp [eq_comm]

theorem not_startsWith_of_not_mem {text : String} (apart : '/' ∉ text.toList) :
    text.startsWith "/" = false := by
  rw [Bool.eq_false_iff]
  intro starts
  exact apart (List.mem_of_mem_head? (startsWith_slash_iff.1 starts))

theorem IsPlain.not_startsWith (plain : IsPlain name) :
    name.startsWith "/" = false :=
  not_startsWith_of_not_mem plain.apart

theorem eq_append_of_endsWith {text ending : String}
    (ends : text.endsWith ending = true) :
    ∃ front, text = front ++ ending := by
  rw [← String.endsWith_toSlice, String.Slice.endsWith_string_iff] at ends
  obtain ⟨front, equality⟩ := ends
  refine ⟨String.ofList front, ?_⟩
  apply String.toList_inj.1
  rw [String.toList_append, String.toList_ofList, equality]
  simp

/-- The three ways in which a plain name is joined to the path of a folder. -/
theorem IsPlain.join_cases (plain : IsPlain name) (folder : String) :
    (folder = "" ∧ join folder name = name) ∨
      (∃ front, folder = front ++ "/" ∧
          join folder name = front ++ "/" ++ name) ∨
        (folder ≠ "" ∧ join folder name = folder ++ "/" ++ name) := by
  by_cases empty : folder = ""
  · subst empty
    exact .inl ⟨rfl, by simp [join]⟩
  by_cases ends : folder.endsWith "/" = true
  · obtain ⟨front, equality⟩ := eq_append_of_endsWith ends
    refine .inr (.inl ⟨front, equality, ?_⟩)
    rw [join, plain.not_startsWith, Bool.false_or,
      if_neg (by simpa using empty), if_pos ends, equality]
  · refine .inr (.inr ⟨empty, ?_⟩)
    simp [join, plain.not_startsWith, empty, ends]

theorem IsPlain.pathParts_join (plain : IsPlain name) (folder : String) :
    pathParts (join folder name) = pathParts folder ++ [name] := by
  rcases plain.join_cases folder with
    ⟨rfl, joined⟩ | ⟨front, rfl, joined⟩ | ⟨-, joined⟩
  · rw [joined, plain.pathParts_eq, pathParts_empty, List.nil_append]
  · have open' := pathParts_append_slash front ""
    rw [String.append_empty, pathParts_empty, List.append_nil] at open'
    rw [joined, pathParts_append_slash, open', plain.pathParts_eq]
  · rw [joined, pathParts_append_slash, plain.pathParts_eq]

theorem startsWith_slash_append {front : String} (nonempty : front ≠ "")
    (back : String) :
    (front ++ back).startsWith "/" = front.startsWith "/" := by
  have same : (front ++ back).toList.head? = front.toList.head? := by
    rw [String.toList_append, List.head?_append]
    cases characters : front.toList with
    | nil => exact absurd (String.toList_eq_nil_iff.1 characters) nonempty
    | cons first others => rfl
  rw [Bool.eq_iff_iff, startsWith_slash_iff, startsWith_slash_iff, same]

theorem IsPlain.startsWith_join (plain : IsPlain name) (folder : String) :
    (join folder name).startsWith "/" = folder.startsWith "/" := by
  rcases plain.join_cases folder with ⟨rfl, joined⟩ | ⟨front, rfl, joined⟩ |
    ⟨nonempty, joined⟩
  · rw [joined, plain.not_startsWith]
    rfl
  · have nonempty : front ++ "/" ≠ "" := by simp
    rw [joined, startsWith_slash_append nonempty]
  · rw [joined, String.append_assoc, startsWith_slash_append nonempty]

theorem not_startsWith_intercalate {parts : List String}
    (plain : ∀ part ∈ parts, '/' ∉ part.toList ∧ countsAsPart part = true) :
    ("/".intercalate parts).startsWith "/" = false := by
  match parts with
  | [] => exact not_startsWith_of_not_mem (by simp)
  | [part] =>
    rw [String.intercalate_singleton]
    exact not_startsWith_of_not_mem (plain part List.mem_cons_self).1
  | part :: next :: others =>
    obtain ⟨apart, counts⟩ := plain part List.mem_cons_self
    have nonempty : part ≠ "" := by
      rintro rfl
      cases counts
    rw [String.intercalate_cons_cons, String.append_assoc,
      startsWith_slash_append nonempty]
    exact not_startsWith_of_not_mem apart

theorem step_of_ne {place : Place} {part : String} (below : part ≠ "..") :
    step place part = place ++ [part] := by
  rw [step, if_neg (by simpa using below)]

/-- A plain name in a folder is at that name in the place of the folder. -/
theorem IsPlain.placeOf_join (plain : IsPlain name) (working : Place)
    (folder : String) :
    placeOf working (join folder name) = placeOf working folder ++ [name] := by
  rw [placeOf, placeOf, plain.startsWith_join, plain.pathParts_join,
    List.foldl_append]
  exact step_of_ne plain.below

theorem placeOf_empty (working : Place) : placeOf working "" = working := by
  rw [placeOf, not_startsWith_of_not_mem (by simp), pathParts_empty]
  rfl

/-- The path of the folder of a path leads along all parts but the last one. -/
theorem placeOf_parent? {path last : String} {parts : List String}
    (split : pathParts path = parts ++ [last]) (working : Place) :
    placeOf working ((parent? path).getD "") =
      parts.foldl step (if path.startsWith "/" then [] else working) := by
  have counted : ∀ part ∈ parts,
      '/' ∉ part.toList ∧ countsAsPart part = true := by
    intro part member
    have among : part ∈ pathParts path := by
      rw [split]
      exact List.mem_append_left [last] member
    exact mem_pathParts among
  have parent : parent? path =
      some ((if path.startsWith "/" then "/" else "") ++
        "/".intercalate parts) := by
    unfold parent?
    split
    · next none =>
      rw [split] at none
      exact absurd none (List.append_ne_nil_of_right_ne_nil _
        (List.cons_ne_nil _ _))
    · rw [split, List.dropLast_concat]
  have back : pathParts ("/".intercalate parts) = parts :=
    pathParts_intercalate counted
  rw [parent, Option.getD_some]
  by_cases absolute : path.startsWith "/" = true
  · have written := pathParts_append_slash "" ("/".intercalate parts)
    rw [String.empty_append, pathParts_empty, back, List.nil_append] at written
    have starts : ("/" ++ "/".intercalate parts).startsWith "/" = true := by
      rw [startsWith_slash_append (by decide)]
      exact startsWith_slash_iff.2 rfl
    rw [if_pos absolute, if_pos absolute, placeOf, written, if_pos starts]
  · have relative : ("/".intercalate parts).startsWith "/" = false :=
      not_startsWith_intercalate counted
    rw [if_neg absolute, if_neg absolute, String.empty_append, placeOf,
      back, relative]
    rfl

/-- The folder of a plain name in a folder leads to the place of that folder. -/
theorem IsPlain.placeOf_parent?_join (plain : IsPlain name) (working : Place)
    (folder : String) :
    placeOf working ((parent? (join folder name)).getD "") =
      placeOf working folder := by
  rw [placeOf_parent? (plain.pathParts_join folder), plain.startsWith_join]
  rfl

/-- A path that ends in a name leads to that name in the folder of the path. -/
theorem placeOf_of_lastName? {path : String}
    (named : lastName? path = some name) (working : Place) :
    placeOf working path =
      placeOf working ((parent? path).getD "") ++ [name] := by
  unfold lastName? at named
  split at named
  · next last found =>
    obtain ⟨parts, split⟩ := List.getLast?_eq_some_iff.1 found
    by_cases above : (last == "..") = true
    · rw [if_pos above] at named
      cases named
    · rw [if_neg above] at named
      obtain rfl := Option.some.inj named
      rw [placeOf_parent? split, placeOf, split, List.foldl_append]
      exact step_of_ne (by simpa using above)
  · cases named

/-- What is written behind the path of a name is written behind the name. -/
theorem IsPlain.join_append (plain : IsPlain name) (folder ending : String) :
    join folder name ++ ending = join folder (name ++ ending) := by
  have nonempty : name ≠ "" := by
    rintro rfl
    cases plain.counts
  have relative : (name ++ ending).startsWith "/" = false := by
    rw [startsWith_slash_append nonempty, plain.not_startsWith]
  simp only [join, plain.not_startsWith, relative, Bool.false_or]
  by_cases empty : folder.isEmpty = true
  · rw [if_pos empty, if_pos empty]
  by_cases ends : folder.endsWith "/" = true
  · rw [if_neg empty, if_neg empty, if_pos ends, if_pos ends,
      String.append_assoc]
  · rw [if_neg empty, if_neg empty, if_neg ends, if_neg ends,
      String.append_assoc]

end Joining

end Switchyard.Files
