import SearchSql.Time
import SearchSql.Value

/-!
# Conversion to values

Truth values, numbers, texts, points in time, and optional data and lists of these can be
given wherever a value is expected.
-/

namespace SearchSql

/-- Data that has a value. -/
class ToValue (α : Type) where
  /-- The value of a piece of data. -/
  toValue : α → Value

namespace ToValue

instance : ToValue Value := ⟨id⟩

instance : ToValue Bool := ⟨.bool⟩

/-- Signed integers of any width are widened with their sign. -/
instance : ToValue Int64 := ⟨.int⟩

instance : ToValue Int32 := ⟨fun i => .int i.toInt64⟩

instance : ToValue Int16 := ⟨fun i => .int i.toInt64⟩

instance : ToValue Int8 := ⟨fun i => .int i.toInt64⟩

instance : ToValue ISize := ⟨fun i => .int i.toInt64⟩

/-- Unsigned integers of any width are widened. -/
instance : ToValue UInt64 := ⟨.uint⟩

instance : ToValue UInt32 := ⟨fun u => .uint u.toUInt64⟩

instance : ToValue UInt16 := ⟨fun u => .uint u.toUInt64⟩

instance : ToValue UInt8 := ⟨fun u => .uint u.toUInt64⟩

instance : ToValue USize := ⟨fun u => .uint u.toUInt64⟩

instance : ToValue Binary64 := ⟨.float⟩

/-- Single-precision numbers are widened, which changes none of them. -/
instance : ToValue Binary32 := ⟨fun x => .float x.toBinary64⟩

instance : ToValue String := ⟨.text⟩

/-- A point in time is its number of seconds. -/
instance : ToValue CivilTime := ⟨fun time => .int (Int64.ofInt time.unixSeconds)⟩

/-- A document is unfolded as far as its arrays go. -/
instance : ToValue Document := ⟨Value.ofDocument⟩

/-- Data that is missing is the absent value. -/
instance {α : Type} [ToValue α] : ToValue (Option α) :=
  ⟨fun data => match data with
    | some present => toValue present
    | none => .null⟩

/-- A list of data is the list of its values. -/
instance {α : Type} [ToValue α] : ToValue (List α) := ⟨fun data => .list (data.map toValue)⟩

instance {α : Type} [ToValue α] : ToValue (Array α) :=
  ⟨fun data => .list (data.toList.map toValue)⟩

instance {α : Type} {n : Nat} [ToValue α] : ToValue (Vector α n) :=
  ⟨fun data => .list (data.toList.map toValue)⟩

end ToValue

end SearchSql
