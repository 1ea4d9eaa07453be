import Switchyard.Proofs.Records

/-!
# Texts of records

Six kinds of records are written as JSON text, compact or pretty. Every record
is read back from both texts, whatever characters its names and messages hold
and however great its numbers are. A record may be written in other ways too:
with its fields in another order or left out, as an array, with names that
repeat, or with a number that stands for no delay. Each such text has the text
that is written for its record as its normal form.
-/

namespace Switchyard

/-- The ways in which JSON text is laid out. -/
inductive TextForm where
  | compact
  | pretty
deriving DecidableEq, Repr

namespace TextForm

def write : TextForm → Json → String
  | .compact => Json.compact
  | .pretty => Json.pretty

theorem parse?_write (form : TextForm) {value : Json}
    (readable : value.isReadable = true) :
    Json.parse? (form.write value) = some value := by
  cases form with
  | compact => exact Json.parse?_compact readable
  | pretty => exact Json.parse?_pretty readable

end TextForm

/-- The records that are written as JSON text. -/
inductive RecordKind where
  | policy
  | status
  | selection
  | timing
  | proxy
  | group
deriving DecidableEq, Repr

namespace RecordKind

abbrev Record : RecordKind → Type
  | policy => Policy
  | status => StatusRecord
  | selection => Selection
  | timing => Timing
  | proxy => Proxy
  | group => Group

def fieldNames : RecordKind → List String
  | policy => Policy.fieldNames
  | status => StatusRecord.fieldNames
  | selection => Selection.fieldNames
  | timing => Timing.fieldNames
  | proxy => Proxy.fieldNames
  | group => Group.fieldNames

def toJson : (kind : RecordKind) → kind.Record → Json
  | policy => Policy.toJson
  | status => StatusRecord.toJson
  | selection => Selection.toJson
  | timing => Timing.toJson
  | proxy => Proxy.toJson
  | group => Group.toJson

def ofJson? : (kind : RecordKind) → Json → Option kind.Record
  | policy => Policy.ofJson?
  | status => StatusRecord.ofJson?
  | selection => Selection.ofJson?
  | timing => Timing.ofJson?
  | proxy => Proxy.ofJson?
  | group => Group.ofJson?

/-- The text of a record. -/
def write (kind : RecordKind) (form : TextForm) (record : kind.Record) :
    String :=
  form.write (kind.toJson record)

/-- The record that a text gives. -/
def read? (kind : RecordKind) (text : String) : Option kind.Record :=
  (Json.parse? text).bind kind.ofJson?

/-- The text that is written for the record that a text gives. -/
def normalForm? (kind : RecordKind) (form : TextForm) (text : String) :
    Option String :=
  (kind.read? text).map (kind.write form)

variable (kind : RecordKind) (form : TextForm)

theorem ofJson?_toJson (record : kind.Record) :
    kind.ofJson? (kind.toJson record) = some record := by
  cases kind with
  | policy => exact Policy.ofJson?_toJson record
  | status => exact StatusRecord.ofJson?_toJson record
  | selection => exact Selection.ofJson?_toJson record
  | timing => exact Timing.ofJson?_toJson record
  | proxy => exact Proxy.ofJson?_toJson record
  | group => exact Group.ofJson?_toJson record

theorem isReadable_toJson (record : kind.Record) :
    (kind.toJson record).isReadable = true := by
  cases kind with
  | policy => exact Policy.isReadable_toJson record
  | status => exact StatusRecord.isReadable_toJson record
  | selection => exact Selection.isReadable_toJson record
  | timing => exact Timing.isReadable_toJson record
  | proxy => exact Proxy.isReadable_toJson record
  | group => exact Group.isReadable_toJson record

/-- A record is written as an object that gives each field once, in the order of
the fields. -/
theorem exists_toJson_eq_object (record : kind.Record) :
    ∃ members, kind.toJson record = .object members ∧
      members.map Prod.fst = kind.fieldNames := by
  cases kind <;> exact ⟨_, rfl, rfl⟩

theorem parse?_write (record : kind.Record) :
    Json.parse? (kind.write form record) = some (kind.toJson record) :=
  form.parse?_write (kind.isReadable_toJson record)

@[simp]
theorem read?_write (record : kind.Record) :
    kind.read? (kind.write form record) = some record := by
  rw [read?, parse?_write, Option.bind_some, ofJson?_toJson]

/-- A record is read back from both of its texts, which name all its fields.
Whatever text gives a record, the text that is written for that record gives it
too and is its own normal form. -/
theorem texts_have_normal_forms :
    (∀ record, kind.read? (kind.write form record) = some record ∧
      ∃ members, Json.parse? (kind.write form record) = some (.object members) ∧
        members.map Prod.fst = kind.fieldNames) ∧
    ∀ text, (kind.normalForm? form text).bind kind.read? = kind.read? text ∧
      (kind.normalForm? form text).bind (kind.normalForm? form) =
        kind.normalForm? form text := by
  refine ⟨fun record => ⟨kind.read?_write form record, ?_⟩, fun text => ?_⟩
  · obtain ⟨members, written, names⟩ := kind.exists_toJson_eq_object record
    exact ⟨members, by rw [parse?_write, written], names⟩
  · cases found : kind.read? text with
    | none => simp [normalForm?, found]
    | some record => simp [normalForm?, found]

example : proxy.normalForm? .compact "[\"A\", \"\", 40000]" =
    proxy.normalForm? .compact "[\"\\u0041\"]" := by
  decide +kernel

end RecordKind

end Switchyard
