import Switchyard.Controller.Client

/-!
# Where requests for a group go

The name of a group is the last segment of the path at which the controller is
asked about it. Percent coding loses nothing, so the name can be read from the
segment, and groups with different names are asked about at different paths.
That holds for every name that becomes a segment as it is: names for the place
itself and for the place above become none, and tabs and ends of lines are left
out.
-/

namespace Switchyard

namespace Bytes

theorem ofText_append (former latter : String) :
    ofText (former ++ latter) = ofText former ++ ofText latter := by
  simp [ofText, String.toByteArray_append]

theorem ofText_ofList_cons (character : Char) (characters : List Char) :
    ofText (String.ofList (character :: characters)) =
      ofText character.toString ++ ofText (String.ofList characters) := by
  have split : String.ofList (character :: characters) =
      character.toString ++ String.ofList characters := by
    apply String.toList_inj.1
    simp
  rw [split, ofText_append]

end Bytes

namespace Url.Percent

theorem digitValue?_hexDigit {value : Nat} (digit : value < 16) :
    Text.digitValue? (hexDigit value) = some value := by
  have each : ∀ value : Fin 16,
    Text.digitValue? (hexDigit value.val) = some value.val := by decide
  exact each ⟨value, digit⟩

theorem decode_byteText (byte : UInt8) (rest : List Char) :
    decode (byteText byte ++ rest) = byte :: decode rest := by
  have bound : byte.toNat < 256 := byte.toNat_lt
  have high : Text.digitValue? (hexDigit (byte.toNat / 16)) =
      some (byte.toNat / 16) := by
    apply digitValue?_hexDigit
    omega
  have low : Text.digitValue? (hexDigit (byte.toNat % 16)) =
      some (byte.toNat % 16) := by
    apply digitValue?_hexDigit
    omega
  have whole : byte.toNat / 16 * 16 + byte.toNat % 16 = byte.toNat := by omega
  simp only [byteText, List.cons_append, List.nil_append, decode,
    high, low, whole, UInt8.ofNat_toNat]

theorem decode_flatMap_byteText (bytes : Bytes) (rest : List Char) :
    decode (bytes.flatMap byteText ++ rest) = bytes ++ decode rest := by
  induction bytes with
  | nil => rfl
  | cons byte bytes bytesFact =>
    rw [List.flatMap_cons, List.append_assoc, decode_byteText, bytesFact,
      List.cons_append]

theorem decode_cons_of_ne {character : Char} (plain : character ≠ '%')
    (rest : List Char) :
    decode (character :: rest) = Bytes.ofText character.toString ++
      decode rest := by
  rw [decode]
  intro high low later same
  exact absurd same plain

section Coding

variable {isCoded : Char → Bool}

theorem decode_encodeChar (signCoded : isCoded '%' = true) (character : Char)
    (rest : List Char) :
    decode (encodeChar isCoded character ++ rest) =
      Bytes.ofText character.toString ++ decode rest := by
  unfold encodeChar
  by_cases coded : isCoded character = true
  · rw [if_pos coded, decode_flatMap_byteText]
  · have plain : character ≠ '%' := by
      rintro rfl
      exact coded signCoded
    rw [if_neg coded, List.singleton_append, decode_cons_of_ne plain]

/-- Where the percent sign itself is coded, the bytes that a written form stands
for are those of the text. -/
theorem decode_encode (signCoded : isCoded '%' = true)
    (characters : List Char) :
    decode (encode isCoded characters) =
      Bytes.ofText (String.ofList characters) := by
  induction characters with
  | nil => rfl
  | cons character characters charactersFact =>
    rw [encode, List.flatMap_cons, decode_encodeChar signCoded, ← encode,
      charactersFact, Bytes.ofText_ofList_cons]

end Coding

/-- The text that a written form stands for, if its bytes are those of a
text. -/
def textOf? (written : String) : Option String := (decode written.toList).text?

theorem textOf?_encode {isCoded : Char → Bool} (signCoded : isCoded '%' = true)
    (characters : List Char) :
    textOf? (String.ofList (encode isCoded characters)) =
      some (String.ofList characters) := by
  rw [textOf?, String.toList_ofList, decode_encode signCoded,
    Bytes.text?_ofText]

theorem inSegment_percent (isUsual : Bool) : inSegment isUsual '%' = true := by
  cases isUsual <;> decide

end Url.Percent

namespace Url

/-- The characters of a name without its tabs and ends of lines. -/
def lasting (name : String) : List Char :=
  name.toList.filter fun character => !(['\t', '\n', '\r'].contains character)

/-- Whether a name becomes a segment of a path as it is. -/
def IsSegment (name : String) : Prop :=
  name ≠ "." ∧ name ≠ ".." ∧
    ∀ character ∈ ['\t', '\n', '\r'], character ∉ name.toList

instance (name : String) : Decidable (IsSegment name) :=
  @instDecidableAnd _ _ inferInstance
    (@instDecidableAnd _ _ inferInstance (List.decidableBAll _ _))

/-- The segment that some characters are written as. -/
def segmentOf (isUsual : Bool) (characters : List Char) : String :=
  String.ofList (Percent.encode (Percent.inSegment isUsual) characters)

@[simp]
theorem textOf?_segmentOf (isUsual : Bool) (characters : List Char) :
    Percent.textOf? (segmentOf isUsual characters) =
      some (String.ofList characters) :=
  Percent.textOf?_encode (Percent.inSegment_percent isUsual) characters

theorem lasting_eq_toList_iff {name : String} :
    lasting name = name.toList ↔
      ∀ character ∈ ['\t', '\n', '\r'], character ∉ name.toList := by
  rw [lasting, List.filter_eq_self]
  constructor
  · intro kept character left among
    have stays := kept character among
    simp [left] at stays
  · intro absent character among
    rw [Bool.not_eq_true', Bool.eq_false_iff, Ne, List.contains_iff_mem]
    exact fun left => absent character left among

/-- The segments after which one is added. -/
def foundation (names : List String) : List String :=
  if names = [""] then [] else names

/-- What a name does to the segments of a path. -/
theorem addSegment_eq (isUsual : Bool) (names : List String) (name : String) :
    addSegment isUsual names name =
      if name = "." ∨ name = ".." then names
      else if lasting name = ['.'] then foundation names ++ [""]
      else if lasting name = ['.', '.'] then (foundation names).dropLast ++ [""]
      else foundation names ++ [segmentOf isUsual (lasting name)] := by
  unfold addSegment foundation lasting segmentOf
  by_cases nowhere : name = "." ∨ name = ".."
  · simp [nowhere]
  · obtain ⟨notHere, notAbove⟩ := not_or.1 nowhere
    simp only [notHere, notAbove, beq_iff_eq, or_self,
      Bool.or_eq_true, if_false]

theorem addSegment_of_isSegment (isUsual : Bool) (names : List String)
    {name : String} (fits : IsSegment name) :
    addSegment isUsual names name = foundation names ++
      [segmentOf isUsual name.toList] := by
  obtain ⟨notHere, notAbove, plain⟩ := fits
  have whole := lasting_eq_toList_iff.2 plain
  have notPoint : name.toList ≠ ['.'] :=
    fun same => notHere (String.toList_inj.1 same)
  have notPoints : name.toList ≠ ['.', '.'] :=
    fun same => notAbove (String.toList_inj.1 same)
  rw [addSegment_eq, whole, if_neg (not_or.2 ⟨notHere, notAbove⟩),
    if_neg notPoint, if_neg notPoints]

/-- The segments of a path without an empty one at its end. -/
def withoutEmptyLast (segments : List String) : List String :=
  if segments.getLast? = some "" then segments.dropLast else segments

theorem dropEmptyLast_eq {segments : List String} (more : segments ≠ [""]) :
    dropEmptyLast segments = withoutEmptyLast segments := by
  unfold dropEmptyLast withoutEmptyLast
  by_cases ends : segments.getLast? = some ""
  · obtain ⟨former, rfl⟩ := List.getLast?_eq_some_iff.1 ends
    have long : 1 < (former ++ [""]).length := by
      cases former with
      | nil => exact absurd rfl more
      | cons head tail => simp
    rw [if_pos ⟨ends, long⟩, if_pos ends]
  · rw [if_neg fun both => ends both.1, if_neg ends]

theorem withoutEmptyLast_ne {segments : List String}
    (proper : segments ≠ ["", ""]) :
    withoutEmptyLast segments ≠ [""] := by
  unfold withoutEmptyLast
  by_cases ends : segments.getLast? = some ""
  · obtain ⟨former, rfl⟩ := List.getLast?_eq_some_iff.1 ends
    rw [if_pos ends, List.dropLast_concat]
    rintro rfl
    exact proper rfl
  · rw [if_neg ends]
    rintro rfl
    exact ends rfl

theorem foundation_dropEmptyLast {segments : List String}
    (proper : segments ≠ ["", ""]) :
    foundation (dropEmptyLast segments) = withoutEmptyLast segments := by
  by_cases more : segments = [""]
  · subst more
    decide
  · rw [dropEmptyLast_eq more, foundation, if_neg (withoutEmptyLast_ne proper)]

theorem length_foundation_le (segments : List String) :
    (foundation (dropEmptyLast segments)).length ≤
      (withoutEmptyLast segments).length := by
  by_cases proper : segments = ["", ""]
  · subst proper
    decide
  · exact Nat.le_of_eq (congrArg List.length (foundation_dropEmptyLast proper))

/-- Whether a path goes on from some segments with the one for groups and one
from which a name can be read. -/
def Names (segments : List String) (name : String) (path : Path) : Prop :=
  ∃ segment,
    path = .segments (withoutEmptyLast segments ++ ["proxies", segment]) ∧
    Percent.textOf? segment = some name

section Below

variable {url : Url} {segments : List String}

theorem foundation_append_proxies (names : List String) :
    foundation (names ++ ["proxies"]) = names ++ ["proxies"] := by
  apply if_neg
  intro only
  have ends := congrArg List.getLast? only
  simp at ends

theorem below_path (hierarchical : url.path = .segments segments)
    (name : String) :
    (url.below ["proxies", name]).path =
      .segments (addSegment url.isUsual
        (foundation (dropEmptyLast segments) ++ ["proxies"]) name) := by
  have written : segmentOf url.isUsual "proxies".toList = "proxies" := by
    cases url.isUsual <;> decide
  have first := addSegment_of_isSegment url.isUsual (dropEmptyLast segments)
    (show IsSegment "proxies" by decide)
  rw [written] at first
  simp only [below, hierarchical, List.foldl_cons, List.foldl_nil, first]

theorem below_path_of_isSegment (hierarchical : url.path = .segments segments)
    {name : String} (fits : IsSegment name) :
    (url.below ["proxies", name]).path =
      .segments (foundation (dropEmptyLast segments) ++
        ["proxies", segmentOf url.isUsual name.toList]) := by
  rw [below_path hierarchical, addSegment_of_isSegment _ _ fits,
    foundation_append_proxies, List.append_assoc, List.singleton_append]

theorem names_below (hierarchical : url.path = .segments segments)
    (proper : segments ≠ ["", ""]) {name : String} (fits : IsSegment name) :
    Names segments name (url.below ["proxies", name]).path := by
  refine ⟨segmentOf url.isUsual name.toList, ?_, ?_⟩
  · rw [below_path_of_isSegment hierarchical fits,
      foundation_dropEmptyLast proper]
  · rw [textOf?_segmentOf, String.ofList_toList]

/-- A name that can be read from the path below a base is one that becomes a
segment as it is, and the segments of the base are not two empty ones. -/
theorem isSegment_of_names (hierarchical : url.path = .segments segments)
    {name : String}
    (named : Names segments name (url.below ["proxies", name]).path) :
    segments ≠ ["", ""] ∧ IsSegment name := by
  obtain ⟨segment, path, read⟩ := named
  rw [below_path hierarchical, addSegment_eq, foundation_append_proxies,
    Path.segments.injEq] at path
  have shorter := length_foundation_le segments
  have lengths := congrArg List.length path
  -- A name that is taken for a place leaves fewer segments than there have to
  -- be, or an empty one, from which only the empty name is read.
  by_cases nowhere : name = "." ∨ name = ".."
  · rw [if_pos nowhere] at lengths
    simp only [List.length_append, List.length_cons, List.length_nil] at lengths
    omega
  · rw [if_neg nowhere] at path lengths
    obtain ⟨notHere, notAbove⟩ := not_or.1 nowhere
    by_cases point : lasting name = ['.']
    · rw [if_pos point, List.append_assoc] at path
      obtain ⟨-, same⟩ := List.append_inj' path rfl
      obtain rfl : "" = segment := by simpa using same
      obtain rfl : "" = name := Option.some.inj read
      exact nomatch point
    · rw [if_neg point] at path lengths
      by_cases points : lasting name = ['.', '.']
      · rw [if_pos points, List.dropLast_concat] at lengths
        simp only [List.length_append, List.length_cons, List.length_nil]
          at lengths
        omega
      · rw [if_neg points, List.append_assoc] at path
        obtain ⟨sameBase, same⟩ := List.append_inj' path rfl
        obtain rfl : segmentOf url.isUsual (lasting name) = segment := by
          simpa using same
        rw [textOf?_segmentOf, Option.some.injEq] at read
        have whole := congrArg String.toList read
        rw [String.toList_ofList] at whole
        refine ⟨?_, notHere, notAbove, lasting_eq_toList_iff.1 whole⟩
        rintro rfl
        exact nomatch sameBase

end Below

theorem Path.text_append_pair (names : List String) (former latter : String) :
    (Path.segments (names ++ [former, latter])).text =
      (Path.segments (names ++ [former])).text ++ ("/" ++ latter) := by
  simp [Path.text, String.join_append, String.append_assoc]

theorem segmentOf_injective {isUsual : Bool} {one other : String}
    (same : segmentOf isUsual one.toList = segmentOf isUsual other.toList) :
    one = other := by
  have read := congrArg Percent.textOf? same
  rw [textOf?_segmentOf, textOf?_segmentOf, String.ofList_toList,
    String.ofList_toList] at read
  exact Option.some.inj read

theorem eq_of_text_below {url : Url} {segments : List String}
    (hierarchical : url.path = .segments segments) {one other : String}
    (fits : IsSegment one) (fits' : IsSegment other)
    (same : (url.below ["proxies", one]).path.text =
      (url.below ["proxies", other]).path.text) :
    one = other := by
  rw [below_path_of_isSegment hierarchical fits,
    below_path_of_isSegment hierarchical fits',
    Path.text_append_pair, Path.text_append_pair, String.append_right_inj,
    String.append_right_inj] at same
  exact segmentOf_injective same

end Url

namespace Controller

open Url (IsSegment Names)

/-- From the path of a request for a group its name can be read if and only if
the name becomes a segment as it is and the base has other segments than two
empty ones. Requests for groups whose names are such, and differ, go to
different paths. -/
theorem groups_asked_by_name (client : Client) {segments : List String}
    (hierarchical : client.base.path = .segments segments) :
    (∀ group, Names segments group (client.endpoint ["proxies", group]).path ↔
        segments ≠ ["", ""] ∧ IsSegment group) ∧
      ∀ one other, IsSegment one → IsSegment other → one ≠ other →
        (client.endpoint ["proxies", one]).path.text ≠
          (client.endpoint ["proxies", other]).path.text := by
  refine ⟨fun group => ?_, fun one other fits fits' apart same => ?_⟩
  · constructor
    · exact Url.isSegment_of_names hierarchical
    · rintro ⟨proper, fits⟩
      exact Url.names_below hierarchical proper fits
  · exact apart (Url.eq_of_text_below hierarchical fits fits' same)

/-- How a controller on the own host is reached below a path with a slash at its
end. -/
def neighbourhood : Settings.Access :=
  { Settings.Access.usual with url := "http://127.0.0.1:9090/api/" }

/-- The client of that controller. -/
def neighbour : Client where
  base := ⟨"http", some ⟨"", none, .ipv4 2130706433, some 9090⟩,
    .segments ["api", ""], none, none⟩
  secret := none
  requestTimeout := 20000
  probeUrl := "https://www.gstatic.com/generate_204"
  probeTimeout := 5000

/-- A name with a blank and a slash, and two names of which one is the other in
percent coding. -/
theorem groups_asked_by_awkward_names :
    (Client.ofAccess neighbourhood).toOption = some neighbour ∧
      neighbour.base.path = .segments ["api", ""] ∧
      (neighbour.endpoint ["proxies", "My Group/1"]).path =
        .segments ["api", "proxies", "My%20Group%2F1"] ∧
      Names ["api", ""] "My Group/1"
        (neighbour.endpoint ["proxies", "My Group/1"]).path ∧
      (neighbour.endpoint ["proxies", "é"]).path.text ≠
        (neighbour.endpoint ["proxies", "%C3%A9"]).path.text := by
  obtain ⟨readable, apart⟩ := groups_asked_by_name neighbour rfl
  exact ⟨by decide +kernel, rfl, by decide +kernel,
    (readable "My Group/1").2 (by decide),
    apart "é" "%C3%A9" (by decide) (by decide) (by decide)⟩

/-- A tab is left out of a name, so two groups are asked about at one path. A
point leads to the path for all proxies, and two points with a tab to the path
of the controller. -/
theorem groups_asked_alike :
    (Client.ofAccess neighbourhood).toOption = some neighbour ∧
      (∀ group ∈ ["US\tEast", "USEast", ".", "..\t"],
        Text.isBlank group = false) ∧
      neighbour.endpoint ["proxies", "US\tEast"] =
        neighbour.endpoint ["proxies", "USEast"] ∧
      ¬ Names ["api", ""] "US\tEast"
        (neighbour.endpoint ["proxies", "US\tEast"]).path ∧
      neighbour.endpoint ["proxies", "."] = neighbour.endpoint ["proxies"] ∧
      (neighbour.endpoint ["proxies", "..\t"]).path = neighbour.base.path := by
  refine ⟨by decide +kernel, by decide, by decide +kernel,
    fun named => ?_, by decide +kernel, by decide +kernel⟩
  have hierarchical : neighbour.base.path = .segments ["api", ""] := rfl
  have fits := Url.isSegment_of_names hierarchical named
  exact absurd fits.2 (by decide)

end Controller

end Switchyard
