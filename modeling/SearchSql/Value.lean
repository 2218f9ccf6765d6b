import SearchSql.Document
import SearchSql.Number.Leading

/-!
# Parameter values

A value is what a caller gives for a column, a parameter or an option. It converts to
and from JSON documents, has a plain text without quotes, and can be taken as a number
or a truth value whatever its form.
-/

namespace SearchSql

/-- A parameter value. -/
inductive Value where
  /-- The absent value. -/
  | null
  /-- A truth value. -/
  | bool (value : Bool)
  /-- A signed 64-bit integer. -/
  | int (value : Int64)
  /-- An unsigned 64-bit integer. -/
  | uint (value : UInt64)
  /-- A double-precision number, also one that is not finite. -/
  | float (value : Binary64)
  /-- A text. -/
  | text (value : String)
  /-- An ordered list. -/
  | list (items : List Value)
  /-- A JSON document. -/
  | json (document : Document)

namespace Value

instance : Inhabited Value := ⟨.null⟩

/-- SQL writes doubles out in full, without a point after a whole number. -/
def numberFormat : NumberFormat where
  wholeEnd := ""
  isPositional := fun _ => true
  exponentPlus := ""
  tie := .up

/-- The SQL text of a double. Only finite numbers have one; the others are written as absent. -/
def floatText (x : Binary64) : String :=
  if x.isFinite then numberFormat.text x else "NULL"

/-- A truth value is written as a digit. -/
def bitText (b : Bool) : String := if b then "1" else "0"

/-- The null value is recognised by its form. -/
def isNull : Value → Bool
  | .null => true
  | _ => false

/-- Lists are recognised by their form. -/
def isList : Value → Bool
  | .list _ => true
  | _ => false

/-- The elements of a list; any other value is its own only element. -/
def items : Value → List Value
  | .list items => items
  | value => [value]

mutual

/-- The text of a value without any quotes. -/
def plain : Value → String
  | .null => "NULL"
  | .bool b => bitText b
  | .int i => integerText i.toInt
  | .uint u => Nat.repr u.toNat
  | .float x => floatText x
  | .text s => s
  | .list items => ", ".intercalate (plainItems items)
  | .json document => document.text

/-- The plain texts of the elements of a list. -/
def plainItems : List Value → List String
  | [] => []
  | item :: rest => item.plain :: plainItems rest

end

/-- A value counts as true unless it is absent, false, zero, empty, or the text `0`. -/
def truthy : Value → Bool
  | .null => false
  | .bool b => b
  | .int i => i != 0
  | .uint u => u != 0
  | .float x => !x.isZero
  | .text s => !s.isEmpty && s != "0"
  | .list items => !items.isEmpty
  | .json document => !document.isNull

/-- A value as a signed integer: numbers are cut and held within the range, a text counts as
the number it starts with, and what is no number counts as zero. -/
def asInt64 : Value → Int64
  | .null => 0
  | .bool b => if b then 1 else 0
  | .int i => i
  | .uint u => if u.toNat < 0x8000000000000000 then u.toInt64 else Int64.maxValue
  | .float x => if x.isFinite then x.toInt64 else 0
  | .text s => match leadingNumber? s with
    | some x => x.toInt64
    | none => 0
  | .list _ => 0
  | .json _ => 0

/-- A value as an unsigned integer. What is not unsigned already is taken as a signed integer
first, and a negative one counts as zero. -/
def asUInt64 : Value → UInt64
  | .uint u => u
  | value => if value.asInt64 < 0 then 0 else value.asInt64.toUInt64

/-- A value as a double. -/
def asBinary64 : Value → Binary64
  | .null => Binary64.zero
  | .bool b => if b then Binary64.one else Binary64.zero
  | .int i => Binary64.ofInt i.toInt
  | .uint u => Binary64.ofInt u.toNat
  | .float x => x
  | .text s => (leadingNumber? s).getD Binary64.zero
  | .list _ => Binary64.zero
  | .json _ => Binary64.zero

/-- An integer of a document is signed if it fits and unsigned otherwise. -/
def ofNumber : Number → Value
  | .natural n => if n.toNat < 0x8000000000000000 then .int n.toInt64 else .uint n
  | .negative n _ => .int n
  | .real x _ => .float x

mutual

/-- The value of a document. Arrays become lists, and objects stay documents. -/
def ofDocument : Document → Value
  | .null => .null
  | .bool b => .bool b
  | .number n => ofNumber n
  | .string s => .text s
  | .array items => .list (ofDocuments items)
  | .object fields => .json (.object fields)

/-- The values of the elements of an array. -/
def ofDocuments : List Document → List Value
  | [] => []
  | item :: rest => ofDocument item :: ofDocuments rest

end

mutual

/-- The document of a value. A double that is not finite has no JSON number and becomes null. -/
def toDocument : Value → Document
  | .null => .null
  | .bool b => .bool b
  | .int i => .number (Number.ofInt64 i)
  | .uint u => .number (.natural u)
  | .float x => match Number.ofBinary64? x with
    | some number => .number number
    | none => .null
  | .text s => .string s
  | .list items => .array (toDocuments items)
  | .json document => document

/-- The documents of the elements of a list. -/
def toDocuments : List Value → List Document
  | [] => []
  | item :: rest => item.toDocument :: toDocuments rest

end

mutual

/-- Values are equal when they have the same form and content. Doubles compare as numbers and
documents by their content. -/
def equals : Value → Value → Bool
  | .null, .null => true
  | .bool a, .bool b => a == b
  | .int a, .int b => a == b
  | .uint a, .uint b => a == b
  | .float a, .float b => a.equals b
  | .text a, .text b => a == b
  | .list as, .list bs => itemsEqual as bs
  | .json a, .json b => a.equals b
  | _, _ => false

/-- Lists are equal element by element. -/
def itemsEqual : List Value → List Value → Bool
  | [], [] => true
  | a :: as, b :: bs => a.equals b && itemsEqual as bs
  | _, _ => false

end

/-- Diagnostics write doubles with a fractional part, and with an exponent from 1e16 up and
below 1e-4. -/
def inspectFormat : NumberFormat where
  wholeEnd := ".0"
  isPositional := fun exponent => -4 ≤ exponent && exponent < 16
  exponentPlus := ""
  tie := .up

/-- The diagnostic text of a double. -/
def inspectFloat (x : Binary64) : String :=
  if x.isFinite then inspectFormat.text x
  else if x.isNaN then "NaN"
  else if x.isNegative then "-inf"
  else "inf"

mutual

/-- The diagnostic text of a value, which names the form of each part. -/
def inspect : Value → String
  | .null => "Null"
  | .bool b => "Bool(" ++ Document.boolText b ++ ")"
  | .int i => "Int(" ++ integerText i.toInt ++ ")"
  | .uint u => "UInt(" ++ Nat.repr u.toNat ++ ")"
  | .float x => "Float(" ++ inspectFloat x ++ ")"
  | .text s => "String(" ++ Text.inspect s ++ ")"
  | .list items => "Array([" ++ ", ".intercalate (inspectItems items) ++ "])"
  | .json document => "Json(" ++ document.inspect ++ ")"

/-- The diagnostic texts of the elements of a list. -/
def inspectItems : List Value → List String
  | [] => []
  | item :: rest => item.inspect :: inspectItems rest

end

end Value

end SearchSql
