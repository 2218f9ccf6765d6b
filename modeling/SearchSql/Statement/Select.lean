import SearchSql.Statement.Filter
import SearchSql.Statement.Options

/-!
# SELECT

A SELECT statement is put together by calls in any order; each part keeps the order of its
own calls. The calls are also data, so that a statement is what a list of calls makes of an
empty one.
-/

namespace SearchSql

/-- The direction of an order. -/
inductive Direction where
  /-- The smallest first. -/
  | ascending
  /-- The largest first. -/
  | descending
deriving DecidableEq

/-- The keyword of a direction. -/
def Direction.text : Direction → String
  | .ascending => "ASC"
  | .descending => "DESC"

/-- One criterion of an order. -/
inductive SortKey where
  /-- By a column in a direction. -/
  | column (column : String) (direction : Direction)
  /-- By plain SQL. -/
  | raw (sql : String)

namespace SortKey

/-- A criterion as SQL. -/
def sql (quoter : Quoter) : SortKey → String
  | .column name direction => quoter.quoteIdentifier name ++ " " ++ direction.text
  | .raw given => given

/-- Criteria after a keyword, or nothing if there are none. -/
def sqlAfter (keyword : String) (quoter : Quoter) (keys : List SortKey) : String :=
  if keys.isEmpty then ""
  else keyword ++ ", ".intercalate (keys.map (sql quoter))

end SortKey

/-- A SELECT statement. -/
structure Select where
  /-- The expressions to read, written as they are; none means all columns. -/
  columns : List String
  /-- The indexes to read from. -/
  indexes : List String
  /-- The condition on documents. -/
  filter : Clause
  /-- The columns to group by. -/
  groupBy : List String
  /-- The order within a group. -/
  groupOrder : List SortKey
  /-- The condition on groups. -/
  having : Clause
  /-- The order of the result. -/
  orderBy : List SortKey
  /-- The number of documents to read. -/
  limit : Option UInt64
  /-- The number of documents to skip. -/
  offset : Option UInt64
  /-- The options. -/
  options : Options
  /-- The first error of the calls so far. -/
  error : Option QueryError

namespace Select

/-- Reads all columns of one index. -/
def new (index : String) : Select where
  columns := []
  indexes := [index]
  filter := .empty
  groupBy := []
  groupOrder := []
  having := .empty
  orderBy := []
  limit := none
  offset := none
  options := .empty
  error := none

/-- A call on a SELECT statement. -/
inductive Call where
  /-- Replaces the expressions to read. -/
  | columns (columns : List String)
  /-- Adds an expression to read. -/
  | column (column : String)
  /-- Adds an index to read from. -/
  | index (index : String)
  /-- Restricts the documents. -/
  | filter (filter : Filter)
  /-- Adds a column to group by. -/
  | groupBy (column : String)
  /-- Adds a criterion to the order within a group. -/
  | groupOrder (column : String) (direction : Direction)
  /-- Restricts the groups. -/
  | having (input : Input)
  /-- Adds a criterion to the order of the result. -/
  | orderBy (key : SortKey)
  /-- Sets the number of documents to read. -/
  | limit (count : UInt64)
  /-- Sets the number of documents to skip. -/
  | offset (count : UInt64)
  /-- Sets an option. -/
  | option (name : String) (value : OptionValue)

/-- Restricts the documents, or records why not. -/
def applyFilter (select : Select) (call : Filter) : Select :=
  let outcome := call.applyTo select.filter
  { select with
    filter := outcome.state
    error := firstError select.error outcome.result }

/-- Restricts the groups, or records why not. -/
def applyHaving (select : Select) (input : Input) : Select :=
  let outcome := select.having.add input
  { select with
    having := outcome.state
    error := firstError select.error outcome.result }

/-- The effect of a call. -/
def apply (select : Select) : Call → Select
  | .columns columns => { select with columns := columns }
  | .column column => { select with columns := select.columns ++ [column] }
  | .index index => { select with indexes := select.indexes ++ [index] }
  | .filter call => select.applyFilter call
  | .groupBy column => { select with groupBy := select.groupBy ++ [column] }
  | .groupOrder column direction =>
    { select with groupOrder := select.groupOrder ++ [.column column direction] }
  | .having input => select.applyHaving input
  | .orderBy key => { select with orderBy := select.orderBy ++ [key] }
  | .limit count => { select with limit := some count }
  | .offset count => { select with offset := some count }
  | .option name value => { select with options := select.options.set name value }

/-- The effect of calls in order. -/
def applyAll (select : Select) (calls : List Call) : Select :=
  calls.foldl apply select

/-- Every index has a name, an offset comes with a limit, and an order within groups with a
group. The first rule that is broken is reported. -/
def validate (select : Select) : Except QueryError Unit :=
  if select.indexes.any Text.isBlankText then .error (.statement .blankIndex)
  else if select.offset.isSome && select.limit.isNone then
    .error (.statement .offsetWithoutLimit)
  else if !select.groupOrder.isEmpty && select.groupBy.isEmpty then
    .error (.statement .groupOrderWithoutGroup)
  else .ok ()

/-- The limit with its offset, or nothing without a limit. -/
def limitSql (offset limit : Option UInt64) : String :=
  match offset, limit with
  | some skipped, some count =>
    " LIMIT " ++ Nat.repr skipped.toNat ++ ", " ++ Nat.repr count.toNat
  | none, some count => " LIMIT " ++ Nat.repr count.toNat
  | _, none => ""

/-- The text of the statement without any check. -/
def sql (quoter : Quoter) (select : Select) : String :=
  "SELECT " ++
    (if select.columns.isEmpty then "*" else ", ".intercalate select.columns) ++
    " FROM " ++ quoter.quoteIdentifierList select.indexes ++
    select.filter.sqlAfter " WHERE " quoter ++
    (if select.groupBy.isEmpty then ""
      else " GROUP BY " ++ quoter.quoteIdentifierList select.groupBy) ++
    SortKey.sqlAfter " WITHIN GROUP ORDER BY " quoter select.groupOrder ++
    select.having.sqlAfter " HAVING " quoter ++
    SortKey.sqlAfter " ORDER BY " quoter select.orderBy ++
    limitSql select.offset select.limit ++
    (if select.options.isEmpty then "" else " OPTION " ++ select.options.sql quoter)

/-- The text of the statement if nothing is wrong with it. -/
def toSql (quoter : Quoter) (select : Select) : Except QueryError String :=
  finishSql select.error select.validate (select.sql quoter)

end Select

end SearchSql
