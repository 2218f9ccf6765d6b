import SearchSql.Value
import SearchSql.Statement.Keyword

/-!
# Errors

An error says what was wrong, by its class and its cause. The wording is a function of the
cause. A caller that composes conditions may raise errors of the same classes in words
of its own.
-/

namespace SearchSql

/-- What can be wrong with an argument. -/
inductive ArgumentFault where
  /-- No attribute type has this name. -/
  | unknownAttrType (name : String)
  /-- No parameter kind has this name. -/
  | unknownKind (name : String)
  /-- No comparison has this symbol. -/
  | unknownComparison (symbol : String)
  /-- A template has more or fewer placeholders than there are parameters. -/
  | placeholderCount (template : String) (placeholders parameters : Nat)
  /-- There are more or fewer kinds than parameters. -/
  | kindCount (template : String) (parameters kinds : Nat)
  /-- A membership condition lists no value. -/
  | emptyList (operator column : String)
  /-- Only objects and arrays give a mapping. -/
  | notAMapping (document : Document)
  /-- A single column cannot be set once there is more than one row. -/
  | setOnManyRows
  /-- A fault in a caller's own words. -/
  | reported (message : String)

/-- What can be wrong with an entry of a mapping. -/
inductive EntryFault where
  /-- An entry without a name is neither a condition nor a text. -/
  | unusableValue (value : Value)
  /-- A condition was given under a name. -/
  | namedCondition
  /-- A fault in a caller's own words. -/
  | reported (message : String)

/-- What can be wrong with a statement as a whole. -/
inductive StatementFault where
  /-- An index to read from has a blank name. -/
  | blankIndex
  /-- An offset was given without a limit. -/
  | offsetWithoutLimit
  /-- An order within groups was given without a group. -/
  | groupOrderWithoutGroup
  /-- There is no column. -/
  | noColumns (keyword : Keyword)
  /-- There is no row. -/
  | noRows (keyword : Keyword)
  /-- A row has more or fewer values than there are columns. -/
  | raggedRow (row values columns : Nat)
  /-- There is nothing to change. -/
  | noAssignments
  /-- A statement that changes or removes documents has no condition. -/
  | noCondition (keyword : Keyword)
  /-- A fault in a caller's own words. -/
  | reported (message : String)

/-- What can keep a value from being written as, or read from, a document. -/
inductive SerializationFault where
  /-- No attribute type is written with this name. -/
  | unknownVariant (name : String) (known : List String)
  /-- An integer lies outside both 64-bit ranges. -/
  | numberOutOfRange
  /-- A key of a map has no text. -/
  | keyNotText
  /-- A fault in a caller's own words. -/
  | reported (message : String)

/-- An error of a class with its cause. -/
inductive QueryError where
  /-- An argument is wrong. -/
  | argument (fault : ArgumentFault)
  /-- An entry of a mapping is wrong; the place says which. -/
  | entry (place : String) (fault : EntryFault)
  /-- A statement is incomplete or contradicts itself. -/
  | statement (fault : StatementFault)
  /-- A value cannot be written as a document or read from one. -/
  | serialization (fault : SerializationFault)

/-- The wording of a fault of an argument. -/
def ArgumentFault.message : ArgumentFault → String
  | .unknownAttrType name => s!"Unknown attribute type '{name}'"
  | .unknownKind name =>
    s!"Invalid parameter kind '{name}', expected 'identifier' or 'value'"
  | .unknownComparison symbol => s!"Unsupported operator '{symbol}'"
  | .placeholderCount template placeholders parameters =>
    s!"Template '{template}' has {Nat.repr placeholders} placeholder(s) but " ++
      s!"{Nat.repr parameters} parameter(s) were given"
  | .kindCount template parameters kinds =>
    s!"Template '{template}' has {Nat.repr parameters} parameter(s) but " ++
      s!"{Nat.repr kinds} kind(s)"
  | .emptyList operator column => s!"{operator} list for '{column}' cannot be empty"
  | .notAMapping document =>
    s!"Expected a JSON object or array for a where mapping, got {document.text}"
  | .setOnManyRows => "set() cannot be combined with multi-row values"
  | .reported message => message

/-- The wording of a fault of an entry. -/
def EntryFault.message : EntryFault → String
  | .unusableValue value => s!"expected an expression or a SQL string, got {value.inspect}"
  | .namedCondition => "expressions must be added as positional entries"
  | .reported message => message

/-- The wording of a fault of a statement. -/
def StatementFault.message : StatementFault → String
  | .blankIndex => "SELECT index name cannot be empty"
  | .offsetWithoutLimit => "OFFSET requires LIMIT"
  | .groupOrderWithoutGroup => "WITHIN GROUP ORDER BY requires GROUP BY"
  | .noColumns keyword => s!"{keyword.text} requires at least one column"
  | .noRows keyword => s!"{keyword.text} requires at least one row"
  | .raggedRow row values columns =>
    s!"row {Nat.repr row} has {Nat.repr values} values but {Nat.repr columns} columns were given"
  | .noAssignments => "UPDATE requires at least one SET"
  | .noCondition keyword => s!"{keyword.text} requires a WHERE clause"
  | .reported message => message

/-- The wording of a fault of serialization. Known names are quoted and listed. -/
def SerializationFault.message : SerializationFault → String
  | .unknownVariant name known =>
    let listed := ", ".intercalate (known.map fun each => "`" ++ each ++ "`")
    s!"unknown variant `{name}`, expected one of {listed}"
  | .numberOutOfRange => "number out of range"
  | .keyNotText => "key must be a string"
  | .reported message => message

namespace QueryError

/-- The full text of an error: its class, and for an entry its place, before the wording. -/
def message : QueryError → String
  | .argument fault => "Invalid argument: " ++ fault.message
  | .entry place fault => s!"Invalid where entry at {place}: {fault.message}"
  | .statement fault => "Validation error: " ++ fault.message
  | .serialization fault => "Serialization error: " ++ fault.message

/-- Errors of arguments and of entries both come from what the caller gave. -/
def isInvalidArgument : QueryError → Bool
  | .argument _ | .entry _ _ => true
  | _ => false

/-- Errors of a statement are found when it is checked as a whole. -/
def isValidation : QueryError → Bool
  | .statement _ => true
  | _ => false

end QueryError

end SearchSql
