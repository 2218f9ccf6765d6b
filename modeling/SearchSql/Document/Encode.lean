import SearchSql.Error
import Std.Data.TreeMap

/-!
# Encoding as documents

Data of several types can be written as a JSON document. Doubles that are not finite become
null, integers have to fit one of the 64-bit ranges, and the keys of a map have to have a
text.
-/

namespace SearchSql

/-- Data that can be written as a document, or that says why not. -/
class ToDocument (α : Type) where
  /-- The document for a piece of data. -/
  toDocument : α → Except QueryError Document

/-- Data that can stand as the key of a field, or that says why not. -/
class ToDocumentKey (κ : Type) where
  /-- The text of a key. -/
  toKey : κ → Except QueryError String

namespace ToDocument

/-- An integer is natural if it fits the unsigned range, else negative if it fits the signed
range, and else no JSON number. -/
def ofInt (i : Int) : Except QueryError Document :=
  if 0 ≤ i && i < 0x10000000000000000 then .ok (.number (.natural (UInt64.ofNat i.toNat)))
  else if -0x8000000000000000 ≤ i && i < 0 then .ok (.number (Number.ofInt64 (Int64.ofInt i)))
  else .error (.serialization .numberOutOfRange)

/-- The fields of a map in the order of its entries. The key of an entry is written before its
value. -/
def ofEntries {κ α : Type} [ToDocumentKey κ] [ToDocument α] (entries : List (κ × α)) :
    Except QueryError Document := do
  let fields ← entries.mapM fun entry => do
    let key ← ToDocumentKey.toKey entry.1
    let value ← toDocument entry.2
    return (key, value)
  return Document.ofFields fields

instance : ToDocument Document := ⟨.ok⟩

instance : ToDocument Binary64 := ⟨fun x => .ok (Value.float x).toDocument⟩

instance : ToDocument Int := ⟨ofInt⟩

instance : ToDocument String := ⟨fun s => .ok (.string s)⟩

instance : ToDocumentKey String := ⟨.ok⟩

instance : ToDocumentKey Int := ⟨fun i => .ok (integerText i)⟩

/-- A list has no text that could stand as a key. -/
instance {α : Type} : ToDocumentKey (List α) := ⟨fun _ => .error (.serialization .keyNotText)⟩

instance {κ α : Type} {cmp : κ → κ → Ordering} [ToDocumentKey κ] [ToDocument α] :
    ToDocument (Std.TreeMap κ α cmp) := ⟨fun map => ofEntries map.toList⟩

end ToDocument

end SearchSql
