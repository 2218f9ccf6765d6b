import SearchSql.Statement.Filter
import SearchSql.Statement.Options

/-!
# UPDATE

An UPDATE statement changes attributes of the documents that meet its condition. It has to
have a change and a condition.
-/

namespace SearchSql

/-- A change of one attribute. -/
structure Assignment where
  /-- The attribute to change. -/
  column : String
  /-- Its new value. -/
  value : Value
  /-- The type under which the value is written, if one was given. -/
  type : Option AttrType

/-- A change as SQL. -/
def Assignment.sql (quoter : Quoter) (assignment : Assignment) : String :=
  quoter.quoteIdentifier assignment.column ++ " = " ++
    quoter.quoteValue assignment.value assignment.type

/-- An UPDATE statement. -/
structure Update where
  /-- The index to change. -/
  index : String
  /-- The changes in order. -/
  assignments : List Assignment
  /-- The condition on documents. -/
  filter : Clause
  /-- The options. -/
  options : Options
  /-- The first error of the calls so far. -/
  error : Option QueryError

namespace Update

/-- Changes nothing yet in an index. -/
def new (index : String) : Update where
  index := index
  assignments := []
  filter := .empty
  options := .empty
  error := none

/-- A call on an UPDATE statement. -/
inductive Call where
  /-- Adds a change. -/
  | set (column : String) (value : Value)
  /-- Adds a change under a type. -/
  | setTyped (column : String) (value : Value) (type : AttrType)
  /-- Restricts the documents. -/
  | filter (filter : Filter)
  /-- Sets an option. -/
  | option (name : String) (value : OptionValue)

/-- Restricts the documents, or records why not. -/
def applyFilter (update : Update) (call : Filter) : Update :=
  let outcome := call.applyTo update.filter
  { update with
    filter := outcome.state
    error := firstError update.error outcome.result }

/-- The effect of a call. -/
def apply (update : Update) : Call → Update
  | .set column value =>
    { update with assignments := update.assignments ++ [⟨column, value, none⟩] }
  | .setTyped column value type =>
    { update with assignments := update.assignments ++ [⟨column, value, some type⟩] }
  | .filter call => update.applyFilter call
  | .option name value => { update with options := update.options.set name value }

/-- The effect of calls in order. -/
def applyAll (update : Update) (calls : List Call) : Update :=
  calls.foldl apply update

/-- There is a change and a condition. -/
def validate (update : Update) : Except QueryError Unit :=
  if update.assignments.isEmpty then .error (.statement .noAssignments)
  else if update.filter.isEmpty then .error (.statement (.noCondition .update))
  else .ok ()

/-- The text of the statement without any check. -/
def sql (quoter : Quoter) (update : Update) : String :=
  "UPDATE " ++ quoter.quoteIdentifier update.index ++ " SET " ++
    ", ".intercalate (update.assignments.map (Assignment.sql quoter)) ++
    update.filter.sqlAfter " WHERE " quoter ++
    (if update.options.isEmpty then "" else " OPTION " ++ update.options.sql quoter)

/-- The text of the statement if nothing is wrong with it. -/
def toSql (quoter : Quoter) (update : Update) : Except QueryError String :=
  finishSql update.error update.validate (update.sql quoter)

end Update

end SearchSql
