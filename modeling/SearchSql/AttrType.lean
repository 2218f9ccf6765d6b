import SearchSql.Error
import SearchSql.Text.Blank

/-!
# Attribute types

The types that attributes of an index can have. A type steers how a value is written: the
value is first taken as a value of that type.
-/

namespace SearchSql

/-- The type of an attribute. -/
inductive AttrType where
  /-- Unsigned 32-bit integers. -/
  | uint
  /-- Truth values. -/
  | bool
  /-- Signed 64-bit integers. -/
  | bigint
  /-- Floating-point numbers. -/
  | float
  /-- Texts. -/
  | string
  /-- JSON documents. -/
  | json
  /-- Sets of unsigned 32-bit integers. -/
  | mva
  /-- Sets of signed 64-bit integers. -/
  | mva64
deriving DecidableEq

namespace AttrType

/-- All attribute types in their usual order. -/
def all : List AttrType := [.uint, .bool, .bigint, .float, .string, .json, .mva, .mva64]

/-- The name of an attribute type. -/
def name : AttrType → String
  | .uint => "uint"
  | .bool => "bool"
  | .bigint => "bigint"
  | .float => "float"
  | .string => "string"
  | .json => "json"
  | .mva => "mva"
  | .mva64 => "mva64"

/-- The type with exactly the given name. -/
def ofName? (name : String) : Option AttrType :=
  all.find? fun type => type.name == name

/-- Reading a stored name accepts the exact names only. -/
def ofName (name : String) : Except QueryError AttrType :=
  match ofName? name with
  | some type => .ok type
  | none => .error (.serialization (.unknownVariant name (all.map AttrType.name)))

/-- Further names under which types are declared. -/
def aliases : List (String × AttrType) :=
  [("integer", .uint), ("timestamp", .uint), ("multi", .mva), ("multi_64", .mva64)]

/-- Reading a declared type ignores blanks around it and the case of ASCII letters, and accepts
the further names. -/
def parse (text : String) : Except QueryError AttrType :=
  let name := (Text.trim text).map Char.toLower
  match ofName? name <|> aliases.lookup name with
  | some type => .ok type
  | none => .error (.argument (.unknownAttrType name))

end AttrType

end SearchSql
