import SearchSql.Keyed
import SearchSql.Number.Decimal
import SearchSql.Text.Inspect

/-!
# JSON documents

A document is null, a truth value, a number, a text, an array or an object whose fields
keep their order. Numbers are unsigned and signed 64-bit integers or finite doubles. The
compact text of a document has no spaces and escapes only what it has to.
-/

namespace SearchSql

/-- A JSON number. The three forms do not overlap, so each integer has one form. -/
inductive Number where
  /-- An integer that is not negative. -/
  | natural (value : UInt64)
  /-- A negative integer. -/
  | negative (value : Int64) (isNegative : value < 0)
  /-- A finite double, also one without a fractional part. -/
  | real (value : Binary64) (isFinite : value.isFinite = true)

namespace Number

/-- A signed integer is negative or natural by its sign. -/
def ofInt64 (n : Int64) : Number :=
  if h : n < 0 then .negative n h else .natural n.toUInt64

/-- A double is a JSON number only when it is finite. -/
def ofBinary64? (x : Binary64) : Option Number :=
  if h : x.isFinite = true then some (.real x h) else none

/-- JSON writes doubles with a fractional part, and with an exponent from 1e16 up and below 1e-5. -/
def format : NumberFormat where
  wholeEnd := ".0"
  isPositional := fun exponent => -5 ≤ exponent && exponent < 16
  exponentPlus := "+"
  tie := .even

/-- The JSON text of a number. -/
def text : Number → String
  | .natural n => Nat.repr n.toNat
  | .negative n _ => integerText n.toInt
  | .real x _ => format.text x

/-- Numbers are equal when they have the same form and the same value. -/
def equals : Number → Number → Bool
  | .natural m, .natural n => m == n
  | .negative m _, .negative n _ => m == n
  | .real x _, .real y _ => x.equals y
  | _, _ => false

end Number

/-- A JSON document. -/
inductive Document where
  /-- The null document. -/
  | null
  /-- A truth value. -/
  | bool (value : Bool)
  /-- A number. -/
  | number (value : Number)
  /-- A text. -/
  | string (value : String)
  /-- The elements of an array in order. -/
  | array (items : List Document)
  /-- The fields of an object in order. -/
  | object (fields : List (String × Document))

namespace Document

instance : Inhabited Document := ⟨.null⟩

/-- The object with the given fields set one after another. A repeated key keeps its place and has
the last value. -/
def ofFields (fields : List (String × Document)) : Document :=
  .object (Keyed.ofSets fields)

mutual

/-- No object in the document has a key twice, however deep. -/
def HasDistinctKeys : Document → Prop
  | .null | .bool _ | .number _ | .string _ => True
  | .array items => ItemsHaveDistinctKeys items
  | .object fields => (fields.map Prod.fst).Nodup ∧ FieldsHaveDistinctKeys fields

/-- No object in the elements of an array has a key twice. -/
def ItemsHaveDistinctKeys : List Document → Prop
  | [] => True
  | item :: rest => item.HasDistinctKeys ∧ ItemsHaveDistinctKeys rest

/-- No object in the values of fields has a key twice. -/
def FieldsHaveDistinctKeys : List (String × Document) → Prop
  | [] => True
  | (_, value) :: rest => value.HasDistinctKeys ∧ FieldsHaveDistinctKeys rest

end

/-- A truth value as a word. -/
def boolText (b : Bool) : String := if b then "true" else "false"

/-- The JSON escape of one character. Control characters without a short escape are written with
four hexadecimal digits. -/
def escapeChar (c : Char) : List Char :=
  match c with
  | '"' => ['\\', '"']
  | '\\' => ['\\', '\\']
  | '\n' => ['\\', 'n']
  | '\r' => ['\\', 'r']
  | '\t' => ['\\', 't']
  | '\x08' => ['\\', 'b']
  | '\x0c' => ['\\', 'f']
  | _ =>
    if c.toNat < 0x20 then
      let digits := Nat.toDigits 16 c.toNat
      '\\' :: 'u' :: (List.replicate (4 - digits.length) '0' ++ digits)
    else [c]

/-- A text as a JSON string. -/
def stringText (text : String) : String :=
  String.ofList ('"' :: (text.toList.flatMap escapeChar ++ ['"']))

mutual

/-- The compact JSON text of a document. -/
def text : Document → String
  | .null => "null"
  | .bool b => boolText b
  | .number n => n.text
  | .string s => stringText s
  | .array items => "[" ++ ",".intercalate (itemTexts items) ++ "]"
  | .object fields => "\x7b" ++ ",".intercalate (fieldTexts fields) ++ "\x7d"

/-- The texts of the elements of an array. -/
def itemTexts : List Document → List String
  | [] => []
  | item :: rest => item.text :: itemTexts rest

/-- The texts of the fields of an object. -/
def fieldTexts : List (String × Document) → List String
  | [] => []
  | (key, value) :: rest => (stringText key ++ ":" ++ value.text) :: fieldTexts rest

end

mutual

/-- Documents are equal by content. The order of an object's fields does not matter. -/
def equals : Document → Document → Bool
  | .null, .null => true
  | .bool a, .bool b => a == b
  | .number a, .number b => a.equals b
  | .string a, .string b => a == b
  | .array as, .array bs => itemsEqual as bs
  | .object as, .object bs => as.length == bs.length && fieldsWithin as bs
  | _, _ => false

/-- Arrays are equal element by element. -/
def itemsEqual : List Document → List Document → Bool
  | [], [] => true
  | a :: as, b :: bs => a.equals b && itemsEqual as bs
  | _, _ => false

/-- Every field of the first object has an equal value under its key in the second. -/
def fieldsWithin : List (String × Document) → List (String × Document) → Bool
  | [], _ => true
  | (key, value) :: rest, fields =>
    (match Keyed.get? key fields with
      | some other => value.equals other
      | none => false) && fieldsWithin rest fields

end

mutual

/-- The diagnostic text of a document, which names the form of each part. -/
def inspect : Document → String
  | .null => "Null"
  | .bool b => "Bool(" ++ boolText b ++ ")"
  | .number n => "Number(" ++ n.text ++ ")"
  | .string s => "String(" ++ Text.inspect s ++ ")"
  | .array items => "Array [" ++ ", ".intercalate (inspectItems items) ++ "]"
  | .object fields => "Object \x7b" ++ ", ".intercalate (inspectFields fields) ++ "\x7d"

/-- The diagnostic texts of the elements of an array. -/
def inspectItems : List Document → List String
  | [] => []
  | item :: rest => item.inspect :: inspectItems rest

/-- The diagnostic texts of the fields of an object. -/
def inspectFields : List (String × Document) → List String
  | [] => []
  | (key, value) :: rest => (Text.inspect key ++ ": " ++ value.inspect) :: inspectFields rest

end

/-- The null document is recognised by its form. -/
def isNull : Document → Bool
  | .null => true
  | _ => false

end Document

end SearchSql
