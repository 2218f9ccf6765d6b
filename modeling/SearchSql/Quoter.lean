import SearchSql.AttrType

/-!
# Quoting

A quoter writes names and values as SQL. It has to provide two primitives, for names and
for texts; the rest follows from them unless it is given as well. The rules for values
apply to every quoter: by the form of the value alone, or by an attribute type.
-/

namespace SearchSql

namespace Quoting

/-- Elements between parentheses, with a comma and a space between them. -/
def listed (texts : List String) : String :=
  "(" ++ ", ".intercalate texts ++ ")"

mutual

/-- A value written by its own form, given how texts are quoted. -/
def untyped (quoteString : String → String) : Value → String
  | .null => "NULL"
  | .bool b => Value.bitText b
  | .int i => integerText i.toInt
  | .uint u => Nat.repr u.toNat
  | .float x => Value.floatText x
  | .text s => quoteString s
  | .list items => listed (untypedItems quoteString items)
  | .json document => quoteString document.text

/-- The elements of a list, each written by its own form. -/
def untypedItems (quoteString : String → String) : List Value → List String
  | [] => []
  | item :: rest => untyped quoteString item :: untypedItems quoteString rest

end

/-- The elements of a list are written one by one. -/
theorem untypedItems_eq_map (quoteString : String → String) (items : List Value) :
    untypedItems quoteString items = items.map (untyped quoteString) := by
  induction items with
  | nil => rfl
  | cons item rest ih => simp [untypedItems, ih]

/-- An element of a set of unsigned 32-bit integers, held at the end of their range. -/
def setItem (value : Value) : Nat :=
  min value.asUInt64.toNat 0xFFFFFFFF

/-- A value written as a value of an attribute type, given how texts are quoted. A text under the
JSON type is a document already. -/
def typed (quoteString : String → String) : AttrType → Value → String
  | .uint, value => Nat.repr value.asUInt64.toNat
  | .bigint, value => integerText value.asInt64.toInt
  | .float, value => Value.floatText value.asBinary64
  | .bool, value => Value.bitText value.truthy
  | .string, .null => "NULL"
  | .string, value => quoteString value.plain
  | .json, .json document => quoteString document.text
  | .json, .text s => quoteString s
  | .json, value => quoteString value.toDocument.text
  | .mva, value => listed (value.items.map fun item => Nat.repr (setItem item))
  | .mva64, value => listed (value.items.map fun item => integerText item.asInt64.toInt)

end Quoting

/-- How names and values are written as SQL. -/
structure Quoter where
  /-- Writes a name of an index, a field or an attribute. -/
  quoteIdentifier : String → String
  /-- Writes a text as a literal. -/
  quoteString : String → String
  /-- Writes a value by its own form. -/
  quoteUntyped : Value → String := Quoting.untyped quoteString
  /-- Writes a value as one of the given type, or by its own form if there is none. -/
  quoteValue : Value → Option AttrType → String := fun value type =>
    match type with
    | none => quoteUntyped value
    | some type => Quoting.typed quoteString type value
  /-- Writes a list of values. -/
  quoteValueList : List Value → String := fun values =>
    Quoting.listed (values.map quoteUntyped)
  /-- Writes a list of names. -/
  quoteIdentifierList : List String → String := fun names =>
    ", ".intercalate (names.map quoteIdentifier)

end SearchSql
