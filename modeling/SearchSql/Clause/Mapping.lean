import SearchSql.Condition.Request

/-!
# Mappings

A mapping is a short way to state conditions: entries under the name of a column or under a
template, and entries without a name. Each entry stands for one condition; a mapping with
a bad entry stands for none.
-/

namespace SearchSql

namespace Mapping

/-- What an entry stands under. -/
inductive Key where
  /-- An entry without a name, numbered among those from zero. -/
  | position (index : Nat)
  /-- The name of a column, or a template with placeholders. -/
  | name (name : String)
deriving DecidableEq

/-- The place of an entry as errors name it. -/
def Key.text : Key → String
  | .position index => s!"position {Nat.repr index}"
  | .name column => s!"key '{column}'"

/-- The diagnostic text of a key. -/
def Key.inspect : Key → String
  | .position index => s!"Position({Nat.repr index})"
  | .name column => s!"Name({Text.inspect column})"

/-- What an entry holds. -/
inductive Content where
  /-- A value. -/
  | value (value : Value)
  /-- A condition. -/
  | condition (condition : Condition)

/-- The diagnostic text of what an entry holds. -/
def Content.inspect : Content → String
  | .value given => s!"Value({given.inspect})"
  | .condition given => s!"Node({given.inspect})"

/-- A key with its content. -/
structure Entry where
  /-- What the entry stands under. -/
  key : Key
  /-- What the entry holds. -/
  content : Content

/-- Whether an entry has no name. -/
def Entry.isPositional (entry : Entry) : Bool :=
  match entry.key with
  | .position _ => true
  | .name _ => false

end Mapping

/-- A list of entries that each stand for a condition. -/
structure Mapping where
  /-- The entries in the order in which they were given. -/
  entries : List Mapping.Entry

namespace Mapping

/-- No entry. -/
def empty : Mapping := ⟨[]⟩

/-- The number of entries. -/
def size (mapping : Mapping) : Nat := mapping.entries.length

/-- Whether there is no entry. -/
def isEmpty (mapping : Mapping) : Bool := mapping.entries.isEmpty

/-- The number of the next entry without a name. -/
def nextPosition (mapping : Mapping) : Nat :=
  mapping.entries.countP Entry.isPositional

/-- A value is added under a name. -/
def set (mapping : Mapping) (name : String) (value : Value) : Mapping :=
  ⟨mapping.entries ++ [⟨.name name, .value value⟩]⟩

/-- A condition is added under a name, which no clause accepts. -/
def setCondition (mapping : Mapping) (name : String) (condition : Condition) : Mapping :=
  ⟨mapping.entries ++ [⟨.name name, .condition condition⟩]⟩

/-- A content is added without a name, under the next number. -/
def push (mapping : Mapping) (content : Content) : Mapping :=
  ⟨mapping.entries ++ [⟨.position mapping.nextPosition, content⟩]⟩

/-- The fields of an object are entries under their names and the elements of an array entries
without one. No other document is a mapping. -/
def ofDocument : Document → Except QueryError Mapping
  | .object fields =>
    .ok (fields.foldl (fun mapping field => mapping.set field.1 (Value.ofDocument field.2)) empty)
  | .array items =>
    .ok (items.foldl (fun mapping item => mapping.push (.value (Value.ofDocument item))) empty)
  | document => .error (.argument (.notAMapping document))

/-- The condition that an entry stands for. Without a name it is a condition as it stands or a
text of plain SQL. Under a name with a placeholder it is a template with the value as its
parameters; under any other name a list means membership and other values equality. -/
def Entry.condition (entry : Entry) : Except QueryError Condition :=
  match entry.key, entry.content with
  | .position _, .condition condition => .ok condition
  | .position _, .value (.text sql) => .ok (.literal sql)
  | .position _, .value value => .error (.entry entry.key.text (.unusableValue value))
  | .name _, .condition _ => .error (.entry entry.key.text .namedCondition)
  | .name name, .value value =>
    if Template.hasPlaceholder name then Condition.ofValues name value.items
    else
      match value with
      | .list items => Condition.isIn name items
      | value => .ok (Condition.eq name value)

/-- The conditions of all entries, or the error of the first bad one. -/
def conditions (mapping : Mapping) : Except QueryError (List Condition) :=
  mapping.entries.mapM Entry.condition

/-- The diagnostic text of a mapping. -/
def inspect (mapping : Mapping) : String :=
  let entries := mapping.entries.map fun entry =>
    "(" ++ entry.key.inspect ++ ", " ++ entry.content.inspect ++ ")"
  "Mapping \x7b entries: [" ++ ", ".intercalate entries ++
    "], next_position: " ++ Nat.repr mapping.nextPosition ++ " \x7d"

end Mapping

end SearchSql
