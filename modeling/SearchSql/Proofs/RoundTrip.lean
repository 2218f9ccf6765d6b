import SearchSql.Value

/-!
# Documents and values

A document loses nothing when it becomes a value: written as a document again it is the same one.
A value has more forms than JSON, and what it becomes on the way through a document is said case by
case. The integers are where the two directions differ most, since a document tells them apart by
their sign and a value by the range they fit.
-/

namespace SearchSql

/-- The upper half of the unsigned integers are the negative signed ones. -/
theorem Number.toInt64_lt_zero_iff (n : UInt64) :
    n.toInt64 < 0 ↔ 0x8000000000000000 ≤ n.toNat := by
  have hsigned : n.toInt64.toInt = n.toBitVec.toInt := rfl
  have hunsigned : n.toBitVec.toNat = n.toNat := rfl
  have hbound : n.toNat < 0x10000000000000000 := n.toNat_lt
  rw [Int64.lt_iff_toInt_lt, hsigned, BitVec.toInt_eq_toNat_cond, hunsigned, Int64.toInt_zero]
  split <;> omega

namespace Value

/-- A signed integer is the value of its number. -/
theorem ofNumber_ofInt64 (i : Int64) : ofNumber (Number.ofInt64 i) = .int i := by
  unfold Number.ofInt64
  by_cases hnegative : i < 0
  · rw [dif_pos hnegative]
    rfl
  · have hfits : i.toUInt64.toNat < 0x8000000000000000 := by
      rw [← Int64.toInt64_toUInt64 i, Number.toInt64_lt_zero_iff] at hnegative
      omega
    rw [dif_neg hnegative, ofNumber, if_pos hfits, Int64.toInt64_toUInt64]

/-- The value of a number is written as the same number. -/
theorem toDocument_ofNumber (number : Number) :
    (ofNumber number).toDocument = .number number := by
  cases number with
  | natural n =>
    rw [ofNumber]
    by_cases hfits : n.toNat < 0x8000000000000000
    · have hsign : ¬n.toInt64 < 0 := by
        rw [Number.toInt64_lt_zero_iff]
        omega
      rw [if_pos hfits, toDocument, Number.ofInt64, dif_neg hsign, UInt64.toUInt64_toInt64]
    · rw [if_neg hfits, toDocument]
  | negative i hnegative => rw [ofNumber, toDocument, Number.ofInt64, dif_pos hnegative]
  | real x hfinite => rw [ofNumber, toDocument, Number.ofBinary64?, dif_pos hfinite]

mutual

/-- A document that becomes a value is written as the same document. -/
theorem toDocument_ofDocument : (document : Document) → (ofDocument document).toDocument = document
  | .null => rfl
  | .bool _ => rfl
  | .number number => toDocument_ofNumber number
  | .string _ => rfl
  | .array items => congrArg Document.array (toDocuments_ofDocuments items)
  | .object _ => rfl

/-- The elements of an array stay what they are. -/
theorem toDocuments_ofDocuments : (items : List Document) → toDocuments (ofDocuments items) = items
  | [] => rfl
  | item :: rest => by
    rw [ofDocuments, toDocuments, toDocument_ofDocument item, toDocuments_ofDocuments rest]

end

mutual

/-- What JSON keeps of a value. It knows an unsigned integer that fits the signed range as a signed
one, a double that is not finite as null, and a document that is no object as its value. -/
def jsonForm : Value → Value
  | .null => .null
  | .bool b => .bool b
  | .int i => .int i
  | .uint u => if u.toNat < 0x8000000000000000 then .int u.toInt64 else .uint u
  | .float x => if x.isFinite then .float x else .null
  | .text s => .text s
  | .list items => .list (jsonForms items)
  | .json (.object fields) => .json (.object fields)
  | .json document => ofDocument document

/-- What JSON keeps of the elements of a list. -/
def jsonForms : List Value → List Value
  | [] => []
  | item :: rest => item.jsonForm :: jsonForms rest

end

mutual

/-- A value that becomes a document is read back as what JSON keeps of it. -/
theorem ofDocument_toDocument : (value : Value) → ofDocument value.toDocument = value.jsonForm
  | .null => rfl
  | .bool _ => rfl
  | .int i => ofNumber_ofInt64 i
  | .uint _ => rfl
  | .float x => by
    rw [toDocument, jsonForm, Number.ofBinary64?]
    by_cases hfinite : x.isFinite = true
    · rw [dif_pos hfinite, if_pos hfinite]
      rfl
    · rw [dif_neg hfinite, if_neg hfinite]
      rfl
  | .text _ => rfl
  | .list items => congrArg Value.list (ofDocuments_toDocuments items)
  | .json document => by cases document <;> rfl

/-- The elements of a list are read back one by one. -/
theorem ofDocuments_toDocuments :
    (items : List Value) → ofDocuments (toDocuments items) = jsonForms items
  | [] => rfl
  | item :: rest => by
    rw [toDocuments, ofDocuments, ofDocument_toDocument item, ofDocuments_toDocuments rest]
    rfl

end

/-- Nothing is lost between documents and values. Every document is written again as itself, however
deep it is nested, and every value is read back as what JSON keeps of it. -/
theorem document_roundTrip :
    (∀ document : Document, (ofDocument document).toDocument = document) ∧
      ∀ value : Value, ofDocument value.toDocument = value.jsonForm :=
  ⟨toDocument_ofDocument, ofDocument_toDocument⟩

end Value

end SearchSql
